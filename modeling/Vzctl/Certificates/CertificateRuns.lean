import Vzctl.Certificates.ConsistentPairs

/-!
# Runs of certificate calls

Any number of processes create roots and mint leaves.  Where no call replaces
a file that another unfinished call uses, every call that returns leaves
matching pairs, and no key is replaced without force.
-/

namespace Vzctl

namespace Certificates

open Texts Transitions Interleaving

variable {crypto : Crypto} {initial : Files}

abbrev State := Pool Files Outside String Reply Call

/-! ## The contract of calls -/

theorem Rooted.update {files : Files} (rooted : Rooted files) (path : Path)
    (entry : Entry) : Rooted (Function.update files path (some entry)) := by
  have stays : ∀ other, files other ≠ none →
      Function.update files path (some entry) other ≠ none := by
    intro other present
    by_cases same : other = path
    · rw [same, Function.update_self]
      exact Option.some_ne_none entry
    · rw [Function.update_of_ne same]
      exact present
  exact ⟨stays _ rooted.1, stays _ rooted.2⟩

theorem eq_of_replaced {path : Path} {text : String} {isRestricted : Bool}
    {files next : Files}
    (done : replaced path text isRestricted files = .ok next) :
    next = Function.update files path (some (written text isRestricted)) := by
  unfold replaced at done
  split at done
  · exact (Except.ok.inj done).symm
  · cases done

theorem Orderly.allowed {call : Call} {files next : Files}
    (orderly : Orderly files) (allowed : Allowed crypto call files next) :
    Orderly next := by
  cases allowed with
  | look => exact orderly
  | replace done used kept rooted =>
      rename_i path text isRestricted
      cases eq_of_replaced done
      refine ⟨Regular.update orderly.regular path text isRestricted,
        fun other isLeaf present => ?_⟩
      refine Rooted.update ?_ path _
      by_cases same : other = path
      · exact rooted (same ▸ isLeaf)
      · rw [Function.update_of_ne same] at present
        exact orderly.rooted other isLeaf present

/-- What calls rely on and leave. -/
def contract (crypto : Crypto) (initial : Files) :
    Contract Files Outside String Reply Call where
  valid files := Orderly initial → Orderly files
  granted _ := Process.always
  rely := Agree crypto
  guarantee := Allowed crypto
  post call outcome files := ∃ start, Ended crypto call start outcome files

theorem meets_contract :
    (contract crypto initial).Meets (system crypto) where
  reflexive _ := Agree.refl
  transitive _ := Agree.trans
  begins _ call start _ :=
    (safe_work call start).mono fun _ _ ended => ⟨start, ended⟩
  kept _ _ _ valid allowed orderly := (valid orderly).allowed allowed
  left _ _ valid := valid

theorem granted_always (state : State) (move : Move Outside Call) :
    Granted (contract crypto initial) state move := by
  cases move with
  | act number choice => exact fun _ _ => trivial
  | _ => trivial

/-! ## Runs -/

/-- No file is replaced that another unfinished call uses. -/
def Apart (crypto : Crypto) (state : State) (move : Move Outside Call) :
    Prop :=
  ∀ after, Step (system crypto) state move after → ∀ number thread,
    number ≠ move.number → state.threads number = some thread →
    thread.process.running → ∀ path, Uses crypto thread.call path →
    after.shared path = state.shared path

/-- What holds in a state that runs lead to. -/
structure Reliable (crypto : Crypto) (initial : Files) (state : State) :
    Prop where
  returned : ∀ number choice call reply after,
    Step (system crypto) state (.act number choice) after →
    after.threads number = some ⟨call, .done (.ok reply)⟩ →
    RootConsistent crypto after.shared ∧
      ∀ file, call.leafFile crypto = some file →
        LeafConsistent crypto file after.shared
  keys : ∀ move after, Step (system crypto) state move after →
    ∀ path entry, path.isKey = true → state.shared path = some entry →
    after.shared path = some entry ∨
      path = .rootKey ∧ ∃ number choice thread,
        move = .act number choice ∧
          state.threads number = some thread ∧
          thread.call = .ensureCa true
  next : Orderly initial → ∀ call, HostNames call → ∀ outcome files,
    Process.Returns (work crypto call) state.shared outcome files →
    (∃ reply, outcome = .ok reply) ∨ files = state.shared

theorem keys_of_allowed {call : Call} {files next : Files}
    (allowed : Allowed crypto call files next) {path : Path} {entry : Entry}
    (isKey : path.isKey = true) (found : files path = some entry) :
    next path = some entry ∨ path = .rootKey ∧ call = .ensureCa true := by
  cases allowed with
  | look => exact .inl found
  | replace done used kept rooted =>
      rename_i replacedPath text isRestricted
      cases eq_of_replaced done
      by_cases same : path = replacedPath
      · subst same
        rcases kept isKey with missing | forced
        · cases missing.symm.trans found
        · exact .inr forced
      · exact .inl ((Function.update_of_ne same _ _).trans found)

theorem agree_of_allowed {call : Call} {files next : Files}
    (allowed : Allowed crypto call files next) :
    ∀ path, ¬ Uses crypto call path → next path = files path := by
  intro path unused
  cases allowed with
  | look => rfl
  | replace done used kept rooted =>
      rename_i replacedPath text isRestricted
      cases eq_of_replaced done
      refine Function.update_of_ne ?_ _ _
      rintro rfl
      exact unused used

theorem eq_of_returns {call : Call} {start files : Files}
    {outcome : Except String Reply} (orderly : Orderly start)
    (hostNames : HostNames call)
    (returns : Process.Returns (work crypto call) start outcome files) :
    (∃ reply, outcome = .ok reply) ∨ files = start := by
  have safe : Process.Safe Process.always Eq (Allowed crypto call)
      (Ended crypto call start) (work crypto call) start := by
    refine (safe_work call start).of_rely ?_
    rintro files _ rfl
    exact Agree.refl files
  have ended := returns.post safe
  cases outcome with
  | ok reply => exact .inl ⟨reply, rfl⟩
  | error failure =>
      refine .inr (funext fun path => ?_)
      by_cases used : Uses crypto call path
      · exact ended orderly hostNames path used
      · exact returns.guaranteed (fun _ => fun _ _ => rfl)
          (fun _ _ _ left right other unused =>
            (right other unused).trans (left other unused))
          (fun _ _ => agree_of_allowed) safe path used

/-- Calls that do not replace what others use leave consistent pairs. -/
theorem certificate_pairs_of_runs (crypto : Crypto) (initial : Files)
    {state : State}
    (run : Runs (guarded (Apart crypto) (Step (system crypto)))
      (.fresh initial) state) :
    Reliable crypto initial state := by
  have allSafe : AllSafe (contract crypto initial) state :=
    allSafe_of_runs meets_contract (fun orderly => orderly)
      (fun _ _ _ apart => ⟨granted_always _ _, apart⟩) run
  constructor
  · intro number choice call reply after step ends
    obtain ⟨start, ended⟩ := allSafe.ended meets_contract
      (granted_always _ _) step ends
    exact ended
  · intro move after step path entry isKey found
    cases move with
    | begin number call =>
        cases step with
        | begin fresh => exact .inl found
    | stop number =>
        cases step with
        | stop known => exact .inl found
    | act number choice =>
        obtain ⟨thread, known, allowed⟩ :=
          allSafe.guaranteed meets_contract (granted_always _ _) step
        rcases keys_of_allowed allowed isKey found with
          same | ⟨isRoot, forced⟩
        · exact .inl same
        · exact .inr ⟨isRoot, number, choice, thread, rfl, known, forced⟩
  · intro orderly call hostNames outcome files returns
    exact eq_of_returns (allSafe.valid orderly) hostNames returns

/-! ## Two first calls -/

/-- Keys and certificates that are written out. -/
def paper : Crypto where
  generate seed := "key " ++ toString seed
  selfSign _ key := "root of " ++ key
  sign _ root _ key _ := "leaf of " ++ key ++ " by " ++ root
  caPair _ cert key := cert == "root of " ++ key
  leafPair _ cert key root _ := cert == "leaf of " ++ key ++ " by " ++ root
  isKey _ := true
  isAuthority _ := true
  covers _ _ _ := true
  digest cert := cert.toByteArray.toList
  encode value :=
    ((value.field? "fingerprint").bind JSONValue.asString?).getD ""
  decode text := some (.object [("fingerprint", .string text)])
  leafFile host := host
  generated _ := rfl
  selfSigned _ _ := beq_self_eq_true _
  parsed _ _ _ _ := ⟨rfl, rfl⟩
  leafKey _ _ _ _ _ _ := rfl
  signed _ _ _ _ _ _ _ _ _ := beq_self_eq_true _

def acts (number count seed : Nat) : List (Move Outside Call) :=
  List.replicate count (.act number ⟨0, seed⟩)

/-- Both find nothing; the second writes its key after the certificate of the
first. -/
def mixed : State :=
  (.begin 0 (.ensureCa false) :: .begin 1 (.ensureCa false) ::
    (acts 0 2 0 ++ acts 1 3 1 ++ acts 0 4 0 ++ acts 1 1 1)).foldl
    (Pool.move (system paper)) (.fresh fun _ => none)

def mixedAfter : State := mixed.move (system paper) (.act 0 ⟨0, 0⟩)

/-- A first call returns, with a root whose key another first call wrote. -/
theorem certificate_pair_mixed :
    Runs (Step (system paper)) (.fresh fun _ => none) mixed ∧
      Step (system paper) mixed (.act 0 ⟨0, 0⟩) mixedAfter ∧
      mixedAfter.threads 0 =
        some ⟨.ensureCa false, .done (.ok (.authority true
          (paper.fingerprint "root of key 0")))⟩ ∧
      ¬ RootConsistent paper mixedAfter.shared := by
  refine ⟨runs_foldl _ _ _, ?_, rfl, ?_⟩
  · rcases step_or_eq (system paper) mixed (.act 0 ⟨0, 0⟩) with step | same
    · exact step
    · have ends := congrArg (fun state => state.shared .trust) same
      cases ends
  · rintro ⟨cert, key, atCert, atKey, ⟨now, pair⟩, _⟩
    have foundCert : textAt mixedAfter.shared .rootCert =
        some "root of key 0" := rfl
    have foundKey : textAt mixedAfter.shared .rootKey = some "key 1" := rfl
    cases foundCert.symm.trans atCert
    cases foundKey.symm.trans atKey
    exact Bool.false_ne_true pair

/-! ## One call -/

/-- A first call mints a leaf. -/
def minted : State :=
  (.begin 0 (.mintLeaf "web.vz.test" []) :: acts 0 16 0).foldl
    (Pool.move (system paper)) (.fresh fun _ => none)

/-- The leaf of the first call is in order. -/
theorem certificate_pairs_of_minted :
    minted.threads 0 =
        some ⟨.mintLeaf "web.vz.test" [], .done (.ok (.leaf "web.vz.test"
          ["web.vz.test"] (paper.fingerprint
            "leaf of key 0 by root of key 0") false))⟩ ∧
      Reliable paper (fun _ => none) minted := by
  refine ⟨rfl, certificate_pairs_of_runs paper _ ?_⟩
  refine runs_alone (contract paper fun _ => none) 0 _ _ ?_
    fun _ _ => rfl
  intro move member
  rcases List.mem_cons.mp member with rfl | member
  · rfl
  · rw [List.eq_of_mem_replicate member]
    rfl

end Certificates

end Vzctl
