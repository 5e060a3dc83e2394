import Vzctl.Ingress.ServedIngress
import Vzctl.Lib.OpenListeners

/-!
# Reconciled listeners

`PortForwardProxy` and `HostGatewayIngressProxy` of vz-edge: which listeners a
call of `ensure` closes and opens, and what is live afterwards.
-/

namespace Vzctl

open OpenListeners

/-! ## Port forwards -/

namespace PortForwardProxy

structure PortForwardRecord where
  bind : String
  hostPort : UInt16
  guestIP : String
  guestPort : UInt16
  vmID : String
  source : String
  project : String
  stack : String
  state : String
  updatedAt : String
  deriving DecidableEq

def PortForwardRecord.key (record : PortForwardRecord) : String :=
  Ingress.addressKey record.bind record.hostPort

def PortForwardRecord.matches (record other : PortForwardRecord) : Bool :=
  record.bind == other.bind && record.hostPort == other.hostPort &&
    record.guestIP == other.guestIP && record.guestPort == other.guestPort

inductive PortProxyError where
  | bindFailed (bind : String) (port : UInt16) (code : Int)
  | invalidAddress (value : String)
  | collision (bind : String) (port : UInt16)
  deriving DecidableEq, Repr

/-- What one call asks for, and why an opening fails. -/
structure Call where
  desired : List PortForwardRecord
  opens : PortForwardRecord → Option PortProxyError

def ensureEach (opens : PortForwardRecord → Option PortProxyError) :
    List PortForwardRecord → List PortForwardRecord →
      Listening PortForwardRecord →
      Except PortProxyError (List PortForwardRecord) ×
        Listening PortForwardRecord
  | [], active, state => (.ok active, state)
  | record :: rest, active, state =>
      match settle PortForwardRecord.key PortForwardRecord.matches opens record
        state with
      | (some failure, reached) => (.error failure, reached)
      | (none, reached) => ensureEach opens rest (active ++ [record]) reached

def Call.ensure (call : Call) (listeners : Dictionary PortForwardRecord) :
    Except PortProxyError (List PortForwardRecord) ×
      Listening PortForwardRecord :=
  let kept := (start listeners).retain
    (call.desired.map PortForwardRecord.key)
  let reached := ensureEach call.opens call.desired [] kept
  (reached.1.map (sortedBy fun record => record.hostPort.toNat), reached.2)

/-- The listeners after some calls on a new proxy. -/
def reached (calls : List Call) : Dictionary PortForwardRecord :=
  calls.foldl (fun listeners call => (call.ensure listeners).2.listeners) ∅

def Live (listeners : Dictionary PortForwardRecord)
    (record : PortForwardRecord) : Prop :=
  ∃ name, listeners.lookup name = some record

/-- One record for each bind address and host port. -/
def Call.Distinct (call : Call) : Prop :=
  call.desired.Pairwise fun first second =>
    first.bind ≠ second.bind ∨ first.hostPort ≠ second.hostPort

/-- What a call promises about the listeners it starts from. -/
structure Reconciled (listeners : Dictionary PortForwardRecord)
    (call : Call) : Prop where
  exact : ∀ active, (call.ensure listeners).1 = .ok active →
    ∀ record, (Live (call.ensure listeners).2.listeners record ↔
      record ∈ call.desired) ∧ (record ∈ active ↔ record ∈ call.desired)
  untouched : ∀ held, Live listeners held → ∀ record ∈ call.desired,
    held.matches record = true →
      ∀ event ∈ (call.ensure listeners).2.events, event.item.key ≠ held.key
  remaining : ∀ failure, (call.ensure listeners).1 = .error failure →
    ∀ held, Live (call.ensure listeners).2.listeners held →
      held ∈ call.desired

/-- No listener changes its owner only, and none that has to change stands
behind the first opening that fails. -/
structure Settleable (listeners : Dictionary PortForwardRecord)
    (call : Call) : Prop where
  owned : ∀ held, Live listeners held → ∀ record ∈ call.desired,
    held.matches record = true → held = record
  behind : ∀ front failing back,
    call.desired = front ++ failing :: back →
    (∀ record ∈ front,
      Kept PortForwardRecord.key PortForwardRecord.matches listeners record ∨
        call.opens record = none) →
    ¬ Kept PortForwardRecord.key PortForwardRecord.matches listeners failing →
    call.opens failing ≠ none →
    ∀ record ∈ back, ∀ held, listeners.lookup record.key = some held →
      held.matches record = true

/-! ## One call -/

theorem key_injective {first second : PortForwardRecord}
    (same : first.key = second.key) :
    first.bind = second.bind ∧ first.hostPort = second.hostPort :=
  Ingress.addressKey_injective same

theorem matches_key {held record : PortForwardRecord}
    (same : held.matches record = true) : held.key = record.key := by
  simp only [PortForwardRecord.matches, Bool.and_eq_true, beq_iff_eq] at same
  rw [PortForwardRecord.key, PortForwardRecord.key, same.1.1.1, same.1.1.2]

theorem matches_self (record : PortForwardRecord) :
    record.matches record = true := by
  simp [PortForwardRecord.matches]

theorem Call.Distinct.nodup {call : Call} (distinct : call.Distinct) :
    (call.desired.map PortForwardRecord.key).Nodup := by
  rw [List.Nodup, List.pairwise_map]
  refine distinct.imp ?_
  intro first second different same
  have parts := key_injective same
  rcases different with bind | port
  · exact bind parts.1
  · exact port parts.2

abbrev KeptIn (listeners : Dictionary PortForwardRecord)
    (record : PortForwardRecord) : Prop :=
  Kept PortForwardRecord.key PortForwardRecord.matches listeners record

/-- All of these records have been settled, and no other key was touched. -/
structure Settled (before : Listening PortForwardRecord)
    (records : List PortForwardRecord)
    (after : Listening PortForwardRecord) : Prop where
  kept : ∀ record ∈ records, KeptIn before.listeners record →
    after.lookup record.key = before.lookup record.key
  renewed : ∀ record ∈ records, ¬ KeptIn before.listeners record →
    after.lookup record.key = some record
  others : ∀ name, name ∉ records.map PortForwardRecord.key →
    after.lookup name = before.lookup name

theorem Settled.nil (state : Listening PortForwardRecord) :
    Settled state [] state where
  kept record impossible := by cases impossible
  renewed record impossible := by cases impossible
  others _ _ := rfl

theorem Settled.cons {before middle after : Listening PortForwardRecord}
    {record : PortForwardRecord} {rest : List PortForwardRecord}
    (fresh : record.key ∉ rest.map PortForwardRecord.key)
    (kept : KeptIn before.listeners record →
      middle.lookup record.key = before.lookup record.key)
    (renewed : ¬ KeptIn before.listeners record →
      middle.lookup record.key = some record)
    (others : ∀ name, name ≠ record.key →
      middle.lookup name = before.lookup name)
    (later : Settled middle rest after) :
    Settled before (record :: rest) after := by
  have apart : ∀ other ∈ rest, other.key ≠ record.key := by
    intro other member same
    exact fresh (List.mem_map.mpr ⟨other, member, same⟩)
  have unchanged : ∀ other ∈ rest,
      KeptIn middle.listeners other ↔ KeptIn before.listeners other := by
    intro other member
    exact kept_congr (others other.key (apart other member))
  have here := later.others record.key fresh
  constructor
  · intro other member held
    rcases List.mem_cons.mp member with same | inside
    · rw [same] at held ⊢
      rw [here, kept held]
    · rw [later.kept other inside ((unchanged other inside).mpr held),
        others other.key (apart other inside)]
  · intro other member changed
    rcases List.mem_cons.mp member with same | inside
    · rw [same] at changed ⊢
      rw [here, renewed changed]
    · exact later.renewed other inside fun held =>
        changed ((unchanged other inside).mp held)
  · intro name absent
    rw [List.map_cons, List.mem_cons, not_or] at absent
    rw [later.others name absent.2, others name absent.1]

/-- How far the loop comes, and what it has done by then. -/
inductive Outcome (opens : PortForwardRecord → Option PortProxyError)
    (before : Listening PortForwardRecord) (desired : List PortForwardRecord)
    (active : List PortForwardRecord)
    (result : Except PortProxyError (List PortForwardRecord))
    (after : Listening PortForwardRecord) : Prop where
  | finished (settled : Settled before desired after)
      (whole : result = .ok (active ++ desired))
      (opened : ∀ record ∈ desired,
        KeptIn before.listeners record ∨ opens record = none)
  | stopped (front : List PortForwardRecord) (failing : PortForwardRecord)
      (back : List PortForwardRecord)
      (middle : Listening PortForwardRecord) (failure : PortProxyError)
      (parts : desired = front ++ failing :: back)
      (settled : Settled before front middle)
      (opened : ∀ record ∈ front,
        KeptIn before.listeners record ∨ opens record = none)
      (changed : ¬ KeptIn before.listeners failing)
      (failed : opens failing = some failure)
      (removed : after = middle.remove failing.key)
      (thrown : result = .error failure)

/-- The loop goes on where the first record is open afterwards. -/
theorem Outcome.cons {opens : PortForwardRecord → Option PortProxyError}
    {record : PortForwardRecord} {rest active : List PortForwardRecord}
    {before middle after : Listening PortForwardRecord}
    {result : Except PortProxyError (List PortForwardRecord)}
    (fresh : record.key ∉ rest.map PortForwardRecord.key)
    (kept : KeptIn before.listeners record →
      middle.lookup record.key = before.lookup record.key)
    (renewed : ¬ KeptIn before.listeners record →
      middle.lookup record.key = some record)
    (others : ∀ name, name ≠ record.key →
      middle.lookup name = before.lookup name)
    (here : KeptIn before.listeners record ∨ opens record = none)
    (later : Outcome opens middle rest (active ++ [record]) result after) :
    Outcome opens before (record :: rest) active result after := by
  have apart : ∀ other ∈ rest, other.key ≠ record.key := by
    intro other member same
    exact fresh (List.mem_map.mpr ⟨other, member, same⟩)
  have unchanged : ∀ other ∈ rest,
      (KeptIn middle.listeners other ↔ KeptIn before.listeners other) := by
    intro other member
    exact kept_congr (others other.key (apart other member))
  cases later with
  | finished later whole opened =>
      refine .finished (.cons fresh kept renewed others later) ?_ ?_
      · rw [whole, List.append_assoc, List.singleton_append]
      · intro other member
        rcases List.mem_cons.mp member with same | inside
        · rwa [same]
        · exact (opened other inside).imp_left (unchanged other inside).mp
  | stopped front failing back last failure parts later opened changed
      failed removed thrown =>
      have inFront : ∀ other ∈ front, other ∈ rest := by
        intro other member
        rw [parts]
        exact List.mem_append_left _ member
      have failingInside : failing ∈ rest := by
        rw [parts]
        exact List.mem_append_right _ List.mem_cons_self
      refine .stopped (record :: front) failing back last failure ?_ ?_ ?_
        ?_ failed removed thrown
      · rw [parts, List.cons_append]
      · refine .cons ?_ kept renewed others later
        intro member
        obtain ⟨other, inside, same⟩ := List.mem_map.mp member
        exact apart other (inFront other inside) same
      · intro other member
        rcases List.mem_cons.mp member with same | inside
        · rwa [same]
        · exact (opened other inside).imp_left
            (unchanged other (inFront other inside)).mp
      · intro held
        exact changed ((unchanged failing failingInside).mpr held)

theorem ensureEach_outcome
    {opens : PortForwardRecord → Option PortProxyError}
    {desired active : List PortForwardRecord}
    {state : Listening PortForwardRecord}
    (distinct : (desired.map PortForwardRecord.key).Nodup) :
    Outcome opens state desired active
      (ensureEach opens desired active state).1
      (ensureEach opens desired active state).2 := by
  induction desired generalizing active state with
  | nil =>
      refine .finished (.nil state) ?_ ?_
      · rw [List.append_nil]
        rfl
      · simp
  | cons record rest ih =>
      rw [List.map_cons, List.nodup_cons] at distinct
      by_cases held : KeptIn state.listeners record
      · rw [ensureEach, settle_of_kept held]
        exact .cons distinct.1 (fun _ => rfl) (absurd held) (fun _ _ => rfl)
          (.inl held) (ih distinct.2)
      · cases opened : opens record with
        | none =>
            rw [ensureEach, settle_of_opened held opened]
            refine .cons distinct.1 (absurd · held) ?_ ?_ (.inr opened)
              (ih distinct.2)
            · intro _
              exact lookup_install_self
            · intro name different
              rw [lookup_install_ne different, lookup_remove_ne different]
        | some failure =>
            rw [ensureEach, settle_of_failed held opened]
            exact .stopped [] record rest state failure rfl (.nil state)
              (by simp) held opened rfl rfl

theorem ensureEach_touches
    {opens : PortForwardRecord → Option PortProxyError}
    {desired active : List PortForwardRecord}
    {state : Listening PortForwardRecord}
    (distinct : (desired.map PortForwardRecord.key).Nodup)
    (keyed : Keyed PortForwardRecord.key state.listeners) :
    Touches PortForwardRecord.key
        {name | ∃ record ∈ desired,
          record.key = name ∧ ¬ KeptIn state.listeners record}
        state (ensureEach opens desired active state).2 ∧
      Keyed PortForwardRecord.key
        (ensureEach opens desired active state).2.listeners := by
  induction desired generalizing active state with
  | nil => exact ⟨.refl, keyed⟩
  | cons record rest ih =>
      rw [List.map_cons, List.nodup_cons] at distinct
      obtain ⟨here, keyedThen⟩ := @settle_spec _ _ PortForwardRecord.key
        PortForwardRecord.matches opens state record keyed
      have first : Touches PortForwardRecord.key
          {name | ∃ other ∈ record :: rest,
            other.key = name ∧ ¬ KeptIn state.listeners other} state
          (settle PortForwardRecord.key PortForwardRecord.matches opens record
            state).2 := by
        refine here.mono ?_
        intro name member
        exact ⟨record, List.mem_cons_self, member.1.symm, member.2⟩
      rw [ensureEach]
      generalize settle PortForwardRecord.key PortForwardRecord.matches opens
        record state = settled at here keyedThen first
      obtain ⟨failure, middle⟩ := settled
      cases failure with
      | some failure => exact ⟨first, keyedThen⟩
      | none =>
          have later := @ih (active ++ [record]) middle
            distinct.2 keyedThen
          refine ⟨first.trans (later.1.mono ?_), later.2⟩
          intro name member
          obtain ⟨other, inside, same, changed⟩ := member
          refine ⟨other, List.mem_cons_of_mem _ inside, same, ?_⟩
          intro held
          apply changed
          refine (kept_congr (here.same other.key ?_)).mpr held
          intro touched
          apply distinct.1
          rw [← touched.1]
          exact List.mem_map.mpr ⟨other, inside, rfl⟩

section Ensure

variable {listeners : Dictionary PortForwardRecord} {call : Call}

/-- The state in which the loop begins. -/
abbrev Call.kept (call : Call) (listeners : Dictionary PortForwardRecord) :
    Listening PortForwardRecord :=
  (start listeners).retain (call.desired.map PortForwardRecord.key)

theorem lookup_kept {name : String} :
    (call.kept listeners).lookup name =
      if name ∈ call.desired.map PortForwardRecord.key then
        listeners.lookup name
      else none :=
  lookup_retain _

theorem lookup_kept_of_mem {record : PortForwardRecord}
    (member : record ∈ call.desired) :
    (call.kept listeners).lookup record.key = listeners.lookup record.key := by
  rw [lookup_kept, if_pos (List.mem_map_of_mem member)]

theorem keptIn_kept {record : PortForwardRecord}
    (member : record ∈ call.desired) :
    KeptIn (call.kept listeners).listeners record ↔
      KeptIn listeners record :=
  kept_congr (lookup_kept_of_mem member)

theorem ensure_touches (distinct : call.Distinct)
    (keyed : Keyed PortForwardRecord.key listeners) :
    Touches PortForwardRecord.key
        {name | ∀ record ∈ call.desired, record.key = name →
          ¬ KeptIn listeners record}
        (start listeners) (call.ensure listeners).2 ∧
      Keyed PortForwardRecord.key (call.ensure listeners).2.listeners := by
  have first : Touches PortForwardRecord.key _ (start listeners)
      (call.kept listeners) := touches_retain keyed _
  have keyedThen : Keyed PortForwardRecord.key
      (call.kept listeners).listeners := keyed_retain keyed _
  obtain ⟨later, keyedLast⟩ := @ensureEach_touches call.opens call.desired []
    (call.kept listeners) distinct.nodup keyedThen
  refine ⟨(first.mono ?_).trans (later.mono ?_), keyedLast⟩
  · intro name outside record member same
    exact absurd (List.mem_map.mpr ⟨record, member, same⟩) outside
  · intro name touched record member same
    obtain ⟨other, inside, sameOther, changed⟩ := touched
    have one : record = other := List.inj_on_of_nodup_map distinct.nodup
      member inside (same.trans sameOther.symm)
    rw [one]
    exact fun held => changed ((keptIn_kept inside).mpr held)

theorem keyed_reached {calls : List Call}
    (distinct : ∀ call ∈ calls, call.Distinct) :
    Keyed PortForwardRecord.key (reached calls) := by
  have steps : ∀ (others : List Call)
      (before : Dictionary PortForwardRecord),
      (∀ call ∈ others, call.Distinct) →
      Keyed PortForwardRecord.key before →
      Keyed PortForwardRecord.key (others.foldl
        (fun listeners call => (call.ensure listeners).2.listeners)
        before) := by
    intro others
    induction others with
    | nil =>
        intro before _ keyed
        exact keyed
    | cons call rest ih =>
        intro before unique keyed
        have parts := List.forall_mem_cons.mp unique
        exact ih _ parts.2 (ensure_touches parts.1 keyed).2
  refine steps calls ∅ distinct ?_
  intro name held found
  cases found

theorem lookup_of_live (keyed : Keyed PortForwardRecord.key listeners)
    {record : PortForwardRecord} (live : Live listeners record) :
    listeners.lookup record.key = some record := by
  obtain ⟨name, found⟩ := live
  rwa [keyed name record found]

theorem ensure_untouched (distinct : call.Distinct)
    (keyed : Keyed PortForwardRecord.key listeners)
    {held record : PortForwardRecord} (live : Live listeners held)
    (member : record ∈ call.desired) (same : held.matches record = true) :
    (∀ event ∈ (call.ensure listeners).2.events,
        event.item.key ≠ held.key) ∧
      Live (call.ensure listeners).2.listeners held := by
  have sameKey := matches_key same
  have found := lookup_of_live keyed live
  rw [sameKey] at found
  have kept : KeptIn listeners record := ⟨held, found, same⟩
  obtain ⟨touches, _⟩ := ensure_touches distinct keyed
  constructor
  · intro event occurred clash
    obtain ⟨added, written, inside⟩ := touches.events
    have begun : (start listeners).events = [] := rfl
    rw [written, begun, List.nil_append] at occurred
    exact inside event occurred record member (sameKey.symm.trans clash.symm)
      kept
  · refine ⟨record.key, (touches.same record.key ?_).trans found⟩
    intro touched
    exact touched record member rfl kept

/-! ## Exactly when a call keeps its promises -/

theorem eq_of_key (distinct : call.Distinct) {first second : PortForwardRecord}
    (firstMember : first ∈ call.desired) (secondMember : second ∈ call.desired)
    (same : first.key = second.key) : first = second :=
  List.inj_on_of_nodup_map distinct.nodup firstMember secondMember same

theorem split_first {α : Type} {good : α → Prop} {front other : List α}
    {failing otherFailing : α} {back otherBack : List α}
    (parts : front ++ failing :: back = other ++ otherFailing :: otherBack)
    (goodFront : ∀ item ∈ front, good item) (bad : ¬ good failing)
    (goodOther : ∀ item ∈ other, good item) (otherBad : ¬ good otherFailing) :
    front = other ∧ failing = otherFailing ∧ back = otherBack := by
  induction front generalizing other with
  | nil =>
      cases other with
      | nil =>
          obtain ⟨here, later⟩ := List.cons.inj parts
          exact ⟨rfl, here, later⟩
      | cons item rest =>
          obtain ⟨here, _⟩ := List.cons.inj parts
          rw [here] at bad
          exact absurd (goodOther item List.mem_cons_self) bad
  | cons item rest ih =>
      cases other with
      | nil =>
          obtain ⟨here, _⟩ := List.cons.inj parts
          rw [← here] at otherBad
          exact absurd (goodFront item List.mem_cons_self) otherBad
      | cons otherItem otherRest =>
          obtain ⟨here, later⟩ := List.cons.inj parts
          obtain ⟨same, others⟩ := ih later
            (List.forall_mem_cons.mp goodFront).2
            (List.forall_mem_cons.mp goodOther).2
          rw [here, same]
          exact ⟨rfl, others⟩

theorem ensure_snd :
    (call.ensure listeners).2 =
      (ensureEach call.opens call.desired [] (call.kept listeners)).2 := rfl

theorem lookup_of_settled (settleable : Settleable listeners call)
    {records : List PortForwardRecord} {after : Listening PortForwardRecord}
    (settled : Settled (call.kept listeners) records after)
    (inside : ∀ record ∈ records, record ∈ call.desired)
    {record : PortForwardRecord} (member : record ∈ records) :
    after.lookup record.key = some record := by
  have desired := inside record member
  by_cases kept : KeptIn (call.kept listeners).listeners record
  · have stays := settled.kept record member kept
    rw [lookup_kept_of_mem desired] at stays
    obtain ⟨held, found, same⟩ := (keptIn_kept desired).mp kept
    have owner := settleable.owned held ⟨record.key, found⟩ record desired same
    rw [stays, found, owner]
  · exact settled.renewed record member kept

/-- Under the key of a live record stands this record. -/
theorem standing_of_live (distinct : call.Distinct)
    (keyed : Keyed PortForwardRecord.key listeners)
    {held : PortForwardRecord}
    (live : Live (call.ensure listeners).2.listeners held) :
    (call.ensure listeners).2.lookup held.key = some held :=
  lookup_of_live (ensure_touches distinct keyed).2 live

/-- Where every record is settled, exactly the desired ones are live. -/
theorem live_iff_of_settled (distinct : call.Distinct)
    (keyed : Keyed PortForwardRecord.key listeners)
    (settleable : Settleable listeners call)
    (settled : Settled (call.kept listeners) call.desired
      (call.ensure listeners).2) (record : PortForwardRecord) :
    Live (call.ensure listeners).2.listeners record ↔
      record ∈ call.desired := by
  have found : ∀ other ∈ call.desired,
      (call.ensure listeners).2.lookup other.key = some other :=
    fun other member =>
      lookup_of_settled settleable settled (fun _ inside => inside) member
  constructor
  · intro live
    have here := standing_of_live distinct keyed live
    by_cases wanted : record.key ∈ call.desired.map PortForwardRecord.key
    · obtain ⟨other, member, same⟩ := List.mem_map.mp wanted
      rw [← same, found other member] at here
      rwa [← Option.some.inj here]
    · have gone := settled.others record.key wanted
      rw [lookup_kept, if_neg wanted, here] at gone
      cases gone
  · intro member
    exact ⟨record.key, found record member⟩

/-- Where the loop stops at a record, only desired ones are left. -/
theorem desired_of_stopped (settleable : Settleable listeners call)
    {front back : List PortForwardRecord} {failing held : PortForwardRecord}
    {middle : Listening PortForwardRecord} {failure : PortProxyError}
    (parts : call.desired = front ++ failing :: back)
    (settled : Settled (call.kept listeners) front middle)
    (opened : ∀ record ∈ front,
      KeptIn (call.kept listeners).listeners record ∨ call.opens record = none)
    (changed : ¬ KeptIn (call.kept listeners).listeners failing)
    (failed : call.opens failing = some failure)
    (here : (middle.remove failing.key).lookup held.key = some held) :
    held ∈ call.desired := by
  have inFront : ∀ record ∈ front, record ∈ call.desired := by
    intro record member
    rw [parts]
    exact List.mem_append_left _ member
  have failingInside : failing ∈ call.desired := by
    rw [parts]
    exact List.mem_append_right _ List.mem_cons_self
  have different : held.key ≠ failing.key := by
    intro same
    rw [same, lookup_remove_self] at here
    cases here
  rw [lookup_remove_ne different] at here
  by_cases early : held.key ∈ front.map PortForwardRecord.key
  · obtain ⟨other, member, same⟩ := List.mem_map.mp early
    rw [← same, lookup_of_settled settleable settled inFront member] at here
    rw [← Option.some.inj here]
    exact inFront other member
  · rw [settled.others held.key early, lookup_kept] at here
    split at here
    · rename_i wanted
      obtain ⟨other, member, same⟩ := List.mem_map.mp wanted
      have behind : other ∈ back := by
        have place := member
        rw [parts, List.mem_append, List.mem_cons] at place
        rcases place with inside | same' | inside
        · exact absurd (List.mem_map.mpr ⟨other, inside, same⟩) early
        · rw [same'] at same
          exact absurd same.symm different
        · exact inside
      rw [← same] at here
      have matching := settleable.behind front failing back parts
        (fun record inside => (opened record inside).imp_left
          (keptIn_kept (inFront record inside)).mp)
        (fun kept => changed ((keptIn_kept failingInside).mpr kept))
        (by rw [failed]; exact Option.some_ne_none failure)
        other behind held here
      rw [settleable.owned held ⟨other.key, here⟩ other member matching]
      exact member
    · cases here

theorem reconciled_of_settleable (distinct : call.Distinct)
    (keyed : Keyed PortForwardRecord.key listeners)
    (settleable : Settleable listeners call) : Reconciled listeners call := by
  have outcome := @ensureEach_outcome call.opens call.desired []
    (call.kept listeners) distinct.nodup
  constructor
  · intro active performed record
    rw [Call.ensure] at performed
    cases outcome with
    | stopped _ _ _ _ failure _ _ _ _ _ _ thrown =>
        rw [thrown] at performed
        cases performed
    | finished settled whole opened =>
        rw [whole, List.nil_append] at performed
        have listed : active = sortedBy (fun record => record.hostPort.toNat)
            call.desired := (Except.ok.inj performed).symm
        rw [listed, SortedBy.mem_sortedBy]
        exact ⟨live_iff_of_settled distinct keyed settleable settled record,
          Iff.rfl⟩
  · intro held live record member same
    exact (ensure_untouched distinct keyed live member same).1
  · intro failure performed held live
    have here := standing_of_live distinct keyed live
    rw [Call.ensure] at performed
    cases outcome with
    | finished settled whole opened =>
        rw [whole] at performed
        cases performed
    | stopped front failing back middle failure parts settled opened changed
        failed removed thrown =>
        rw [ensure_snd, removed] at here
        exact desired_of_stopped settleable parts settled opened changed failed
          here

theorem settleable_of_reconciled (distinct : call.Distinct)
    (keyed : Keyed PortForwardRecord.key listeners)
    (reconciled : Reconciled listeners call) : Settleable listeners call := by
  have outcome := @ensureEach_outcome call.opens call.desired []
    (call.kept listeners) distinct.nodup
  have desired_of_live : ∀ held,
      Live (call.ensure listeners).2.listeners held →
        held ∈ call.desired := by
    intro held live
    cases performed : (call.ensure listeners).1 with
    | ok active => exact (reconciled.exact active performed held).1.mp live
    | error failure => exact reconciled.remaining failure performed held live
  constructor
  · intro held live record member same
    have left := (ensure_untouched distinct keyed live member same).2
    exact eq_of_key distinct (desired_of_live held left) member
      (matches_key same)
  · intro front failing back parts opened changed failed record member held
      found
    have inside : record ∈ call.desired := by
      rw [parts]
      exact List.mem_append_right _ (List.mem_cons_of_mem _ member)
    have failingInside : failing ∈ call.desired := by
      rw [parts]
      exact List.mem_append_right _ List.mem_cons_self
    have failingBad : ¬ (KeptIn listeners failing ∨
        call.opens failing = none) := by
      intro good
      rcases good with kept | none
      · exact changed kept
      · exact failed none
    cases outcome with
    | finished _ _ all =>
        have good := all failing failingInside
        exact absurd (good.imp_left (keptIn_kept failingInside).mp) failingBad
    | stopped otherFront otherFailing otherBack middle failure otherParts
        settled otherOpened otherChanged otherFailed removed thrown =>
        have otherInside : otherFailing ∈ call.desired := by
          rw [otherParts]
          exact List.mem_append_right _ List.mem_cons_self
        have otherGood : ∀ item ∈ otherFront, KeptIn listeners item ∨
            call.opens item = none := by
          intro item early
          have itemInside : item ∈ call.desired := by
            rw [otherParts]
            exact List.mem_append_left _ early
          exact (otherOpened item early).imp_left (keptIn_kept itemInside).mp
        have otherBad : ¬ (KeptIn listeners otherFailing ∨
            call.opens otherFailing = none) := by
          intro good
          rcases good with kept | none
          · exact otherChanged ((keptIn_kept otherInside).mpr kept)
          · rw [otherFailed] at none
            cases none
        obtain ⟨sameFront, sameFailing, _⟩ := split_first
          (parts.symm.trans otherParts) opened failingBad otherGood otherBad
        have unique := distinct.nodup
        rw [parts, List.map_append, List.map_cons] at unique
        obtain ⟨_, late, apart⟩ := List.nodup_append'.mp unique
        have keyMember : record.key ∈ back.map PortForwardRecord.key :=
          List.mem_map_of_mem member
        have different : record.key ≠ failing.key := by
          intro same
          rw [same] at keyMember
          exact (List.nodup_cons.mp late).1 keyMember
        have notEarly : record.key ∉ front.map PortForwardRecord.key := by
          intro early
          exact apart early (List.mem_cons_of_mem _ keyMember)
        have stays : (call.ensure listeners).2.lookup record.key =
            some held := by
          rw [← sameFailing] at removed
          rw [← sameFront] at settled
          rw [ensure_snd, removed, lookup_remove_ne different,
            settled.others record.key notEarly, lookup_kept_of_mem inside,
            found]
        have wanted := desired_of_live held ⟨record.key, stays⟩
        have same := eq_of_key distinct wanted inside
          (keyed record.key held found)
        rw [same]
        exact matches_self record

end Ensure

end PortForwardProxy

/-! ## Gateway listeners -/

namespace HostGatewayIngressProxy

open Ingress

structure Call where
  desired : List Binding
  opens : Binding → Option String
  forceReopen : Bool

/-- A listener stays where it has the binding and the call does not force
all of them. -/
def Call.same (call : Call) (held binding : Binding) : Bool :=
  !call.forceReopen && held == binding

structure Ensuring where
  active : List Binding
  skipped : List (Binding × String)
  state : Listening Binding

def Call.ensureOne (call : Call) (reached : Ensuring) (binding : Binding) :
    Ensuring :=
  match settle Binding.key call.same call.opens binding reached.state with
  | (none, state) =>
      { reached with active := reached.active ++ [binding], state := state }
  | (some failure, state) =>
      { reached with
        skipped := reached.skipped ++ [(binding, failure)], state := state }

def Call.begun (call : Call) (listeners : Dictionary Binding) : Ensuring where
  active := []
  skipped := []
  state := (start listeners).retain (call.desired.map Binding.key)

def Call.ensure (call : Call) (listeners : Dictionary Binding) :
    EnsureResult × Listening Binding :=
  let reached := call.desired.foldl call.ensureOne (call.begun listeners)
  ({ active := sortedBy Binding.key reached.active
     skipped := sortedBy (fun skip => skip.1.key) reached.skipped },
    reached.state)

def reached (calls : List Call) : Dictionary Binding :=
  calls.foldl (fun listeners call => (call.ensure listeners).2.listeners) ∅

def Live (listeners : Dictionary Binding) (binding : Binding) : Prop :=
  ∃ name, listeners.lookup name = some binding

def Call.Distinct (call : Call) : Prop :=
  call.desired.Pairwise fun first second =>
    first.gatewayIP ≠ second.gatewayIP ∨ first.port ≠ second.port

structure Partitioned (listeners : Dictionary Binding) (call : Call) :
    Prop where
  parts : ((call.ensure listeners).1.active ++
    (call.ensure listeners).1.skipped.map Prod.fst).Perm call.desired
  live : ∀ binding, Live (call.ensure listeners).2.listeners binding ↔
    binding ∈ (call.ensure listeners).1.active
  untouched : call.forceReopen = false → ∀ binding ∈ call.desired,
    Live listeners binding →
      ∀ event ∈ (call.ensure listeners).2.events,
        event.item.key ≠ binding.key

/-! ### The same listeners as without the events -/

section Ensure

variable {call : Call} {listeners : Dictionary Binding}

theorem Call.Distinct.nodup (distinct : call.Distinct) :
    (call.desired.map Binding.key).Nodup := by
  rw [List.Nodup, List.pairwise_map]
  refine distinct.imp ?_
  intro first second different same
  have parts := addressKey_injective same
  rcases different with address | port
  · exact address parts.1
  · exact port parts.2

/-- The same results, and the same listener under every key. -/
structure Agrees (traced : Ensuring) (plain : Ingress.Ensuring) : Prop where
  active : traced.active = plain.active
  skipped : traced.skipped = plain.skipped
  lookup : ∀ name, traced.state.lookup name = plain.listeners.lookup name

theorem agrees_ensureOne {traced : Ensuring} {plain : Ingress.Ensuring}
    (agrees : Agrees traced plain) (binding : Binding) :
    Agrees (call.ensureOne traced binding)
      (Ingress.ensureOne call.opens call.forceReopen plain binding) := by
  have kept_iff : Kept Binding.key call.same traced.state.listeners binding ↔
      call.forceReopen = false ∧
        plain.listeners.lookup binding.key = some binding := by
    have under := agrees.lookup binding.key
    rw [Listening.lookup] at under
    simp only [Kept, under, Call.same, Bool.and_eq_true, Bool.not_eq_true',
      beq_iff_eq]
    constructor
    · intro kept
      obtain ⟨held, found, plainCall, same⟩ := kept
      rw [found, same]
      exact ⟨plainCall, rfl⟩
    · intro kept
      exact ⟨binding, kept.2, kept.1, rfl⟩
  rw [Call.ensureOne, Ingress.ensureOne]
  by_cases kept : Kept Binding.key call.same traced.state.listeners binding
  · rw [settle_of_kept kept, if_pos (kept_iff.mp kept)]
    exact ⟨by rw [agrees.active], agrees.skipped, agrees.lookup⟩
  · have erased : ∀ name, (traced.state.remove binding.key).lookup name =
        (plain.listeners.erase binding.key).lookup name := by
      intro name
      by_cases same : name = binding.key
      · rw [same, lookup_remove_self, AList.lookup_erase]
      · rw [lookup_remove_ne same, AList.lookup_erase_ne same]
        exact agrees.lookup name
    rw [if_neg fun held => kept (kept_iff.mpr held)]
    cases opened : call.opens binding with
    | some failure =>
        rw [settle_of_failed kept opened]
        exact ⟨agrees.active, by rw [agrees.skipped], erased⟩
    | none =>
        rw [settle_of_opened kept opened]
        refine ⟨by rw [agrees.active], agrees.skipped, ?_⟩
        intro name
        by_cases same : name = binding.key
        · rw [same, lookup_install_self]
          change _ = ((plain.listeners.erase binding.key).insert binding.key
            binding).lookup binding.key
          rw [AList.lookup_insert]
        · rw [lookup_install_ne same, erased]
          exact (AList.lookup_insert_ne same).symm

theorem agrees_foldl (desired : List Binding) {traced : Ensuring}
    {plain : Ingress.Ensuring} (agrees : Agrees traced plain) :
    Agrees (desired.foldl call.ensureOne traced)
      (desired.foldl (Ingress.ensureOne call.opens call.forceReopen)
        plain) := by
  induction desired generalizing traced plain with
  | nil => exact agrees
  | cons binding rest ih =>
      exact ih (agrees_ensureOne agrees binding)

theorem agrees_ensure :
    (call.ensure listeners).1 =
        (Ingress.ensure call.opens call.forceReopen call.desired
          listeners).1 ∧
      ∀ name, (call.ensure listeners).2.lookup name =
        (Ingress.ensure call.opens call.forceReopen call.desired
          listeners).2.lookup name := by
  have begun : Agrees (call.begun listeners) ⟨[], [],
      listeners.mapValues fun key held =>
        if key ∈ call.desired.map Binding.key then some held else none⟩ := by
    refine ⟨rfl, rfl, ?_⟩
    intro name
    rw [Call.begun, lookup_retain, Dictionary.lookup_mapValues, start,
      Listening.lookup]
    cases listeners.lookup name with
    | none => simp
    | some held => simp
  have agrees := @agrees_foldl call call.desired _ _ begun
  constructor
  · rw [Call.ensure, Ingress.ensure, agrees.active, agrees.skipped]
  · exact agrees.lookup

/-! ### The promises of a call -/

theorem foldl_touches (desired : List Binding) {state : Ensuring}
    (distinct : (desired.map Binding.key).Nodup)
    (keyed : Keyed Binding.key state.state.listeners) :
    Touches Binding.key
        {name | ∃ binding ∈ desired, binding.key = name ∧
          ¬ Kept Binding.key call.same state.state.listeners binding}
        state.state (desired.foldl call.ensureOne state).state ∧
      Keyed Binding.key
        (desired.foldl call.ensureOne state).state.listeners := by
  induction desired generalizing state with
  | nil => exact ⟨.refl, keyed⟩
  | cons binding rest ih =>
      rw [List.map_cons, List.nodup_cons] at distinct
      have step : (call.ensureOne state binding).state =
          (settle Binding.key call.same call.opens binding state.state).2 := by
        rw [Call.ensureOne]
        split
        · rename_i performed
          rw [performed]
        · rename_i performed
          rw [performed]
      obtain ⟨here, keyedThen⟩ := @settle_spec _ _ Binding.key call.same
        call.opens state.state binding keyed
      rw [← step] at here keyedThen
      have later := ih distinct.2 keyedThen
      refine ⟨(here.mono ?_).trans (later.1.mono ?_), later.2⟩
      · intro name member
        exact ⟨binding, List.mem_cons_self, member.1.symm, member.2⟩
      · intro name member
        obtain ⟨other, inside, same, changed⟩ := member
        refine ⟨other, List.mem_cons_of_mem _ inside, same, ?_⟩
        intro held
        apply changed
        refine (kept_congr (here.same other.key ?_)).mpr held
        intro touched
        apply distinct.1
        rw [← touched.1]
        exact List.mem_map.mpr ⟨other, inside, rfl⟩

theorem keyed_ensure (distinct : call.Distinct)
    (keyed : Keyed Binding.key listeners) :
    Keyed Binding.key (call.ensure listeners).2.listeners := by
  have keyedThen : Keyed Binding.key (call.begun listeners).state.listeners :=
    keyed_retain keyed _
  exact (foldl_touches call.desired distinct.nodup keyedThen).2

theorem keyed_reached {calls : List Call}
    (distinct : ∀ call ∈ calls, call.Distinct) :
    Keyed Binding.key (reached calls) := by
  have steps : ∀ (others : List Call) (before : Dictionary Binding),
      (∀ call ∈ others, call.Distinct) → Keyed Binding.key before →
      Keyed Binding.key (others.foldl
        (fun listeners call => (call.ensure listeners).2.listeners)
        before) := by
    intro others
    induction others with
    | nil =>
        intro before _ keyed
        exact keyed
    | cons call rest ih =>
        intro before unique keyed
        have parts := List.forall_mem_cons.mp unique
        exact ih _ parts.2 (keyed_ensure parts.1 keyed)
  refine steps calls ∅ distinct ?_
  intro name held found
  cases found

theorem partitioned (distinct : call.Distinct)
    (keyed : Keyed Binding.key listeners) : Partitioned listeners call := by
  obtain ⟨sameResult, sameLookup⟩ := @agrees_ensure call listeners
  have ensured := ensured_ensure call.opens call.forceReopen distinct.nodup
    listeners
  have parts : ((call.ensure listeners).1.active ++
      (call.ensure listeners).1.skipped.map Prod.fst).Perm call.desired := by
    rw [sameResult]
    exact perm_ensure call.opens call.forceReopen call.desired listeners
  constructor
  · exact parts
  · intro binding
    constructor
    · intro live
      obtain ⟨name, found⟩ := live
      have standing := sameLookup name
      rw [Listening.lookup, found] at standing
      by_cases wanted : name ∈ call.desired.map Binding.key
      · obtain ⟨other, member, same⟩ := List.mem_map.mp wanted
        rw [← same] at standing
        rcases ensured.settled other member with opened | failed
        · rw [opened.2] at standing
          rw [Option.some.inj standing, sameResult]
          exact opened.1
        · rw [failed.2] at standing
          cases standing
      · rw [ensured.closed name wanted] at standing
        cases standing
    · intro member
      have desired := parts.subset (List.mem_append_left _ member)
      rcases ensured.settled binding desired with opened | failed
      · have standing := sameLookup binding.key
        rw [opened.2] at standing
        exact ⟨binding.key, standing⟩
      · obtain ⟨⟨failure, skipped, _⟩, _⟩ := failed
        have unique : call.desired.Nodup :=
          List.Nodup.of_map Binding.key distinct.nodup
        have single := parts.nodup_iff.mpr unique
        rw [← sameResult] at skipped
        exact absurd (List.mem_map.mpr ⟨(binding, failure), skipped, rfl⟩)
          fun inside => (List.nodup_append'.mp single).2.2 member inside
  · intro plain binding member live event occurred clash
    have keyedThen : Keyed Binding.key
        (call.begun listeners).state.listeners := keyed_retain keyed _
    have first : Touches Binding.key _ (start listeners)
        (call.begun listeners).state := touches_retain keyed _
    have later := (@foldl_touches call call.desired _ distinct.nodup
      keyedThen).1
    have found : listeners.lookup binding.key = some binding := by
      obtain ⟨name, under⟩ := live
      rwa [keyed name binding under]
    obtain ⟨early, writtenEarly, insideEarly⟩ := first.events
    obtain ⟨late, writtenLate, insideLate⟩ := later.events
    have events : (call.ensure listeners).2.events = early ++ late := by
      refine writtenLate.trans ?_
      rw [writtenEarly]
      rfl
    rw [events, List.mem_append] at occurred
    rcases occurred with before | after
    · have outside := insideEarly event before
      rw [clash] at outside
      exact outside (List.mem_map.mpr ⟨binding, member, rfl⟩)
    · obtain ⟨other, inside, same, changed⟩ := insideLate event after
      have one : other = binding := List.inj_on_of_nodup_map distinct.nodup
        inside member (same.trans clash)
      apply changed
      rw [one]
      refine ⟨binding, ?_, by simp [Call.same, plain]⟩
      have kept := @lookup_retain _ (start listeners) binding.key
        (call.desired.map Binding.key)
      rw [if_pos (List.mem_map.mpr ⟨binding, member, rfl⟩)] at kept
      exact kept.trans found

end Ensure

end HostGatewayIngressProxy

/-! ## Sequences of calls -/

namespace PortForwardProxy

/-- A call of the forwards does what it promises exactly where no listener
changes its owner alone and none has to change behind a failed opening.  A
call of the gateway listeners always does. -/
theorem ensure_reconciles_iff (calls : List Call)
    (gatewayCalls : List HostGatewayIngressProxy.Call) :
    (∀ call : Call, (∀ each ∈ calls, each.Distinct) → call.Distinct →
        (Reconciled (reached calls) call ↔
          Settleable (reached calls) call)) ∧
      ∀ call : HostGatewayIngressProxy.Call,
        (∀ each ∈ gatewayCalls, each.Distinct) → call.Distinct →
        HostGatewayIngressProxy.Partitioned
          (HostGatewayIngressProxy.reached gatewayCalls) call := by
  constructor
  · intro call before distinct
    have keyed := keyed_reached before
    exact ⟨settleable_of_reconciled distinct keyed,
      reconciled_of_settleable distinct keyed⟩
  · intro call before distinct
    exact HostGatewayIngressProxy.partitioned distinct
      (HostGatewayIngressProxy.keyed_reached before)

/-! ## A forward that moves to another machine -/

def forward (vmID guestIP : String) : PortForwardRecord where
  bind := "127.0.0.1"
  hostPort := 8080
  guestIP := guestIP
  guestPort := 80
  vmID := vmID
  source := "service"
  project := "shop"
  stack := "web"
  state := "active"
  updatedAt := ""

def request (vmID guestIP : String) : Call where
  desired := [forward vmID guestIP]
  opens _ := none

theorem request_distinct (vmID guestIP : String) :
    (request vmID guestIP).Distinct :=
  List.pairwise_singleton _ _

theorem keyed_empty :
    Keyed PortForwardRecord.key (∅ : Dictionary PortForwardRecord) := by
  intro name held found
  cases found

theorem live_request (vmID guestIP : String) (held : PortForwardRecord) :
    Live (reached [request vmID guestIP]) held ↔
      held = forward vmID guestIP := by
  have settleable : Settleable ∅ (request vmID guestIP) := by
    constructor
    · intro other live
      obtain ⟨name, found⟩ := live
      cases found
    · intro front failing back parts opened changed failed
      exact absurd rfl failed
  have reconciled := reconciled_of_settleable (request_distinct vmID guestIP)
    keyed_empty settleable
  have opened : ((request vmID guestIP).ensure ∅).1 =
      .ok [forward vmID guestIP] := by
    rfl
  have live := (reconciled.exact _ opened held).1
  rwa [request, List.mem_singleton] at live

/-- The new machine takes over the address of the old one, and the listener
stays with the old one. -/
theorem ensure_keeps_owner :
    ¬ ∀ (calls : List Call) (call : Call), (∀ each ∈ calls, each.Distinct) →
        call.Distinct → Reconciled (reached calls) call := by
  intro promised
  have distinct := request_distinct "new" "192.168.64.2"
  have before : ∀ each ∈ [request "old" "192.168.64.2"], each.Distinct := by
    simpa using request_distinct "old" "192.168.64.2"
  have reconciled := promised _ _ before distinct
  have settleable :=
    settleable_of_reconciled distinct (keyed_reached before) reconciled
  have same := settleable.owned (forward "old" "192.168.64.2")
    ((live_request _ _ _).mpr rfl) (forward "new" "192.168.64.2")
    List.mem_cons_self (by decide)
  exact absurd same (by decide)

/-- A forward to another address is renewed. -/
theorem ensure_reconciles_iff_renewed :
    Reconciled (reached [request "old" "192.168.64.2"])
        (request "new" "192.168.64.3") ∧
      HostGatewayIngressProxy.Partitioned
        (HostGatewayIngressProxy.reached [])
        ⟨[⟨"127.0.0.1", 443, "127.0.0.1", 8443⟩], fun _ => some "denied",
          false⟩ := by
  constructor
  · refine ((ensure_reconciles_iff _ []).1 _
      (by simpa using request_distinct "old" "192.168.64.2")
      (request_distinct "new" "192.168.64.3")).mpr ?_
    constructor
    · intro held live record member same
      rw [(live_request _ _ _).mp live, List.mem_singleton.mp member] at same
      exact absurd same (by decide)
    · intro front failing back parts opened changed failed
      exact absurd rfl failed
  · exact (ensure_reconciles_iff [] []).2 _ (by simp)
      (List.pairwise_singleton _ _)

end PortForwardProxy

end Vzctl
