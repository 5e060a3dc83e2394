import Mathlib.Algebra.Order.Ring.Rat
import Mathlib.Data.Finset.Basic
import Vzctl.Json
import Vzctl.Lib.Dictionary
import Vzctl.Lib.PartialMap
import Vzctl.Lib.Transition

/-!
# The status cache of the REST service

Calls of `get` meet in one table under the lock of one condition.  Every
critical section is one step; builds run between the steps of their call.
-/

namespace Vzctl

/-- The bytes of `stack.yaml`, if it can be read. -/
abbrev StackConfig := Option (List UInt8)

namespace RestStatusCache

structure Entry where
  config : StackConfig
  value : JSONValue
  expires : ℚ

end RestStatusCache

structure RestStatusCache where
  entries : Dictionary RestStatusCache.Entry := ∅
  collecting : Finset String := ∅
  generation : Nat := 0

namespace RestStatusCache

/-! ## The table -/

def maxEntries : Nat := 128

def invalidate (cache : RestStatusCache) : RestStatusCache :=
  { cache with generation := cache.generation + 1, entries := ∅ }

/-- The value that `get` returns without a build. -/
def cached (cache : RestStatusCache) (path : String) (config : StackConfig)
    (now : ℚ) : Option JSONValue :=
  (cache.entries.lookup path).bind fun entry =>
    if entry.config = config ∧ now < entry.expires then
      some entry.value
    else
      none

def collect (cache : RestStatusCache) (path : String) : RestStatusCache :=
  { cache with collecting := insert path cache.collecting }

def release (cache : RestStatusCache) (path : String) : RestStatusCache :=
  { cache with collecting := cache.collecting.erase path }

/-- `entries.filter { $0.value.expires > now() }`, with one reading of the
clock for each entry. -/
def unexpired (cache : RestStatusCache) (readings : String → ℚ) :
    Dictionary Entry :=
  cache.entries.mapValues fun path entry =>
    if readings path < entry.expires then some entry else none

def store (cache : RestStatusCache) (readings : String → ℚ) (path : String)
    (entry : Entry) : RestStatusCache :=
  let kept := cache.unexpired readings
  let room := if maxEntries ≤ kept.entries.length then ∅ else kept
  { cache with entries := room.insert path entry }

/-- The lock is held again with the value of a build. -/
def finishBuild (cache : RestStatusCache) (lifetime : ℚ)
    (startedGeneration : Nat) (path : String) (config : StackConfig)
    (value : JSONValue) (readings : String → ℚ) (now : ℚ) : RestStatusCache :=
  if cache.generation = startedGeneration then
    cache.store readings path ⟨config, value, now + lifetime⟩
  else
    cache

theorem lookup_unexpired {cache : RestStatusCache} {readings : String → ℚ}
    {path : String} {entry : Entry}
    (found : (cache.unexpired readings).lookup path = some entry) :
    cache.entries.lookup path = some entry := by
  rw [unexpired, Dictionary.lookup_mapValues] at found
  obtain ⟨held, present, kept⟩ := Option.bind_eq_some_iff.mp found
  split at kept
  · rw [present, kept]
  · cases kept

theorem lookup_store {cache : RestStatusCache} {readings : String → ℚ}
    {path other : String} {added entry : Entry}
    (found : (cache.store readings path added).entries.lookup other =
      some entry) :
    cache.entries.lookup other = some entry ∨
      path = other ∧ added = entry := by
  simp only [store] at found
  rcases Dictionary.eq_of_lookup_insert found with earlier | same
  · split at earlier
    · simp at earlier
    · exact .inl (lookup_unexpired earlier)
  · exact .inr same

theorem length_insert_le (values : Dictionary Entry) (path : String)
    (entry : Entry) :
    (values.insert path entry).entries.length ≤ values.entries.length + 1 := by
  rw [AList.entries_insert, List.length_cons]
  exact Nat.succ_le_succ (List.kerase_sublist _ _).length_le

theorem length_store_le (cache : RestStatusCache) (readings : String → ℚ)
    (path : String) (entry : Entry) :
    (cache.store readings path entry).entries.entries.length ≤
      maxEntries := by
  simp only [store]
  refine (length_insert_le _ path entry).trans ?_
  split
  · decide
  · omega

/-! ## The calls -/

/-- Where a call of `get` stands.  `ready` is before the test of
`collecting`, on arrival or woken up; `waiting` is inside `wait`. -/
inductive Call (ε : Type) where
  | ready (path : String) (config : StackConfig)
  | waiting (path : String) (config : StackConfig)
  | building (path : String) (config : StackConfig) (startedGeneration : Nat)
  | returned (value : JSONValue)
  | threw (error : ε)

/-- What `broadcast` does to a call. -/
def Call.woken {ε : Type} : Call ε → Call ε
  | .waiting path config => .ready path config
  | call => call

/-- What has happened; the readings of the clock are those of the step. -/
inductive Event (ε : Type) where
  | invalidated
  | started (call : Nat) (path : String) (config : StackConfig)
  | finished (call : Nat) (result : Except ε JSONValue) (now : ℚ)
  | hit (call : Nat) (path : String) (config : StackConfig)
      (value : JSONValue) (now : ℚ)

inductive Action (ε : Type) where
  | invalidate
  | get (call : Nat) (path : String) (config : StackConfig)
  | wake (call : Nat)
  | check (call : Nat) (now : ℚ)
  | finish (call : Nat) (result : Except ε JSONValue)
      (readings : String → ℚ) (now : ℚ)

/-- The cache, the calls by number, and what happened, newest first. -/
structure Service (ε : Type) where
  cache : RestStatusCache := {}
  calls : Nat → Option (Call ε) := fun _ => none
  history : List (Event ε) := []

namespace Service

variable {ε : Type}

def broadcast (service : Service ε) : Service ε :=
  { service with calls := fun call => (service.calls call).map Call.woken }

def setCall (service : Service ε) (call : Nat) (value : Call ε) :
    Service ε :=
  { service with calls := Function.update service.calls call (some value) }

def record (service : Service ε) (event : Event ε) : Service ε :=
  { service with history := event :: service.history }

def setCache (service : Service ε) (cache : RestStatusCache) : Service ε :=
  { service with cache := cache }

/-- From the test of `collecting` to the next `wait`, return or build. -/
def check (service : Service ε) (call : Nat) (path : String)
    (config : StackConfig) (now : ℚ) : Service ε :=
  if path ∈ service.cache.collecting then
    service.setCall call (.waiting path config)
  else
    match service.cache.cached path config now with
    | some value =>
        (service.setCall call (.returned value)).record
          (.hit call path config value now)
    | none =>
        ((service.setCache (service.cache.collect path)).setCall call
          (.building path config service.cache.generation)).record
          (.started call path config)

/-- The critical section behind a build. -/
def finish (service : Service ε) (lifetime : ℚ) (call : Nat) (path : String)
    (config : StackConfig) (startedGeneration : Nat)
    (result : Except ε JSONValue) (readings : String → ℚ) (now : ℚ) :
    Service ε :=
  match result with
  | .ok value =>
      (((service.setCache ((service.cache.finishBuild lifetime
        startedGeneration path config value readings now).release
          path)).broadcast).setCall call (.returned value)).record
        (.finished call result now)
  | .error error =>
      (((service.setCache (service.cache.release path)).broadcast).setCall
        call (.threw error)).record (.finished call result now)

def next (lifetime : ℚ) (service : Service ε) :
    Action ε → Option (Service ε)
  | .invalidate =>
      some (((service.setCache service.cache.invalidate).broadcast).record
        .invalidated)
  | .get call path config =>
      match service.calls call with
      | none => some (service.setCall call (.ready path config))
      | some _ => none
  | .wake call =>
      match service.calls call with
      | some (.waiting path config) =>
          some (service.setCall call (.ready path config))
      | _ => none
  | .check call now =>
      match service.calls call with
      | some (.ready path config) =>
          some (service.check call path config now)
      | _ => none
  | .finish call result readings now =>
      match service.calls call with
      | some (.building path config startedGeneration) =>
          some (service.finish lifetime call path config startedGeneration
            result readings now)
      | _ => none

def Step (lifetime : ℚ) (service : Service ε) (action : Action ε)
    (after : Service ε) : Prop :=
  service.next lifetime action = some after

/-! ## What every run keeps -/

/-- The event is in the history, and no `invalidate` came after it. -/
def Since (event : Event ε) (history : List (Event ε)) : Prop :=
  ∃ later earlier, history = later ++ event :: earlier ∧
    .invalidated ∉ later

/-- The value was built for the path and the configuration, at the reading
`built`, and no `invalidate` came since that build started. -/
def Produced (path : String) (config : StackConfig) (value : JSONValue)
    (built : ℚ) (history : List (Event ε)) : Prop :=
  ∃ builder later earlier,
    history = later ++ .finished builder (.ok value) built :: earlier ∧
      .invalidated ∉ later ∧ Since (.started builder path config) earlier

/-- The claim about the cache, of one state. -/
structure NeverHides (lifetime : ℚ) (service : Service ε) : Prop where
  oneBuild : ∀ path call other config otherConfig generation
    otherGeneration,
    service.calls call = some (.building path config generation) →
    service.calls other =
      some (.building path otherConfig otherGeneration) → call = other
  hits : ∀ later call path config value now earlier,
    service.history = later ++ .hit call path config value now :: earlier →
    ∃ built, now - built < lifetime ∧
      Produced path config value built earlier
  noneForgotten : ∀ call path config,
    service.calls call = some (.waiting path config) →
    ∃ builder other generation,
      service.calls builder = some (.building path other generation)
  bounded : service.cache.entries.entries.length ≤ maxEntries

/-- The invariant: what the table and the set say about the history. -/
structure Sound (lifetime : ℚ) (service : Service ε) : Prop
    extends NeverHides lifetime service where
  collected : ∀ path, path ∈ service.cache.collecting ↔
    ∃ call config generation,
      service.calls call = some (.building path config generation)
  builds : ∀ call path config generation,
    service.calls call = some (.building path config generation) →
    generation ≤ service.cache.generation ∧
      (service.cache.generation = generation →
        Since (.started call path config) service.history)
  stored : ∀ path entry, service.cache.entries.lookup path = some entry →
    ∃ built, entry.expires = built + lifetime ∧
      Produced path entry.config entry.value built service.history

theorem Since.cons {event new : Event ε} {history : List (Event ε)}
    (since : Since event history) (other : new ≠ .invalidated) :
    Since event (new :: history) := by
  obtain ⟨later, earlier, same, without⟩ := since
  refine ⟨new :: later, earlier, by rw [same, List.cons_append], ?_⟩
  simp [without, Ne.symm other]

theorem Produced.cons {path : String} {config : StackConfig}
    {value : JSONValue} {built : ℚ} {new : Event ε}
    {history : List (Event ε)}
    (produced : Produced path config value built history)
    (other : new ≠ .invalidated) :
    Produced path config value built (new :: history) := by
  obtain ⟨builder, later, earlier, same, without, since⟩ := produced
  refine ⟨builder, new :: later, earlier, ?_, ?_, since⟩
  · rw [same, List.cons_append]
  · simp [without, Ne.symm other]

/-! ## One step -/

variable {lifetime : ℚ} {service after : Service ε} {call : Nat}
  {path : String} {config : StackConfig} {generation : Nat}

/-- Every hit was produced. -/
def Hits (lifetime : ℚ) (history : List (Event ε)) : Prop :=
  ∀ later call path config value now earlier,
    history = later ++ .hit call path config value now :: earlier →
    ∃ built, now - built < lifetime ∧
      Produced path config value built earlier

theorem Hits.cons {new : Event ε} {history : List (Event ε)}
    (hits : Hits lifetime history)
    (fresh : ∀ call path config value now,
      new = .hit call path config value now →
      ∃ built, now - built < lifetime ∧
        Produced path config value built history) :
    Hits lifetime (new :: history) := by
  intro later call path config value now earlier same
  cases later with
  | nil =>
      obtain ⟨isNew, isHistory⟩ := List.cons.inj same
      rw [← isHistory]
      exact fresh call path config value now isNew
  | cons first rest =>
      obtain ⟨_, isHistory⟩ := List.cons.inj same
      exact hits rest call path config value now earlier isHistory

theorem woken_building {value : Call ε} :
    value.woken = .building path config generation ↔
      value = .building path config generation := by
  cases value <;> simp [Call.woken]

theorem woken_ne_waiting (value : Call ε) :
    value.woken ≠ .waiting path config := by
  cases value <;> simp [Call.woken]

theorem calls_broadcast_building {other : Nat} :
    service.broadcast.calls other =
        some (.building path config generation) ↔
      service.calls other = some (.building path config generation) := by
  simp [broadcast, Option.map_eq_some_iff, woken_building]

theorem calls_broadcast_waiting {other : Nat} :
    service.broadcast.calls other ≠ some (.waiting path config) := by
  simp [broadcast, Option.map_eq_some_iff, woken_ne_waiting]

/-- Another call than the one that is set stands where it stood. -/
theorem of_calls_setCall {value held : Call ε} {other : Nat}
    (found : (service.setCall call value).calls other = some held) :
    other = call ∧ held = value ∨
      other ≠ call ∧ service.calls other = some held :=
  PartialMap.of_update_eq_some found

theorem calls_setCall_ne {value : Call ε} {other : Nat}
    (different : other ≠ call) :
    (service.setCall call value).calls other = service.calls other :=
  Function.update_of_ne different _ _

theorem calls_setCall_self {value : Call ε} :
    (service.setCall call value).calls call = some value :=
  Function.update_self ..

namespace Sound

/-- A call that neither builds before nor after is moved. -/
theorem setCall (sound : Sound lifetime service) {value : Call ε}
    (before : ∀ path config generation,
      service.calls call ≠ some (.building path config generation))
    (behind : ∀ path config generation,
      value ≠ .building path config generation)
    (asleep : ∀ path config, value = .waiting path config →
      path ∈ service.cache.collecting) :
    Sound lifetime (service.setCall call value) := by
  have building : ∀ {other path config generation},
      (service.setCall call value).calls other =
          some (.building path config generation) ↔
        service.calls other = some (.building path config generation) := by
    intro other path config generation
    constructor
    · intro found
      rcases of_calls_setCall found with ⟨_, same⟩ | ⟨_, same⟩
      · exact absurd same.symm (behind path config generation)
      · exact same
    · intro found
      rw [calls_setCall_ne]
      · exact found
      · rintro rfl
        exact before path config generation found
  refine ⟨⟨?_, sound.hits, ?_, sound.bounded⟩, ?_, ?_, sound.stored⟩
  · intro path first second config other generation otherGeneration one two
    exact sound.oneBuild path first second config other generation
      otherGeneration (building.mp one) (building.mp two)
  · intro other path config found
    simp only [building]
    rcases of_calls_setCall found with ⟨_, same⟩ | ⟨_, same⟩
    · exact (sound.collected path).mp (asleep path config same.symm)
    · exact sound.noneForgotten other path config same
  · intro path
    simp only [building]
    exact sound.collected path
  · intro other path config generation found
    exact sound.builds other path config generation (building.mp found)

/-- An event is added that is no `invalidate`. -/
theorem record (sound : Sound lifetime service) {event : Event ε}
    (other : event ≠ .invalidated)
    (fresh : ∀ call path config value now,
      event = .hit call path config value now →
      ∃ built, now - built < lifetime ∧
        Produced path config value built service.history) :
    Sound lifetime (service.record event) := by
  refine ⟨⟨sound.oneBuild, Hits.cons sound.hits fresh, sound.noneForgotten,
    sound.bounded⟩, sound.collected, ?_, ?_⟩
  · intro call path config generation found
    have parts := sound.builds call path config generation found
    exact ⟨parts.1, fun current => (parts.2 current).cons other⟩
  · intro path entry found
    obtain ⟨built, expires, produced⟩ := sound.stored path entry found
    exact ⟨built, expires, produced.cons other⟩

theorem invalidated (sound : Sound lifetime service) :
    Sound lifetime (((service.setCache service.cache.invalidate).broadcast
      ).record .invalidated) := by
  refine ⟨⟨?_, ?_, ?_, ?_⟩, ?_, ?_, ?_⟩
  · intro path first second config other generation otherGeneration one two
    exact sound.oneBuild path first second config other generation
      otherGeneration (calls_broadcast_building.mp one)
      (calls_broadcast_building.mp two)
  · exact Hits.cons sound.hits fun _ _ _ _ _ impossible => nomatch impossible
  · intro call path config found
    exact absurd found calls_broadcast_waiting
  · exact Nat.zero_le _
  · intro path
    simp only [Service.record, calls_broadcast_building]
    exact sound.collected path
  · intro call path config generation found
    have earlier := (sound.builds call path config generation
      (calls_broadcast_building.mp found)).1
    refine ⟨Nat.le_succ_of_le earlier, ?_⟩
    intro current
    change service.cache.generation + 1 = generation at current
    omega
  · intro path entry found
    cases found

theorem started (sound : Sound lifetime service)
    (ready : service.calls call = some (.ready path config))
    (free : path ∉ service.cache.collecting) :
    Sound lifetime (((service.setCache
      (service.cache.collect path)).setCall call
        (.building path config service.cache.generation)).record
          (.started call path config)) := by
  have elsewhere : ∀ {other path' config' generation'},
      service.calls other = some (.building path' config' generation') →
        other ≠ call := by
    rintro other path' config' generation' found rfl
    cases ready.symm.trans found
  have unbuilt : ∀ {other config' generation'},
      service.calls other ≠ some (.building path config' generation') :=
    fun found => free ((sound.collected path).mpr ⟨_, _, _, found⟩)
  refine ⟨⟨?_, ?_, ?_, sound.bounded⟩, ?_, ?_, ?_⟩
  · intro path' first second config' other generation' otherGeneration one two
    rcases of_calls_setCall one with ⟨rfl, same⟩ | ⟨_, oneBefore⟩
    · cases same
      rcases of_calls_setCall two with ⟨rfl, _⟩ | ⟨_, twoBefore⟩
      · rfl
      · exact absurd twoBefore unbuilt
    · rcases of_calls_setCall two with ⟨rfl, same⟩ | ⟨_, twoBefore⟩
      · cases same
        exact absurd oneBefore unbuilt
      · exact sound.oneBuild _ _ _ _ _ _ _ oneBefore twoBefore
  · exact Hits.cons sound.hits fun _ _ _ _ _ impossible => nomatch impossible
  · intro other path' config' found
    rcases of_calls_setCall found with ⟨_, same⟩ | ⟨_, found⟩
    · cases same
    · obtain ⟨builder, config', generation', building⟩ :=
        sound.noneForgotten other path' config' found
      refine ⟨builder, config', generation', ?_⟩
      exact (calls_setCall_ne (elsewhere building)).trans building
  · intro path'
    refine Finset.mem_insert.trans ?_
    constructor
    · rintro (rfl | collecting)
      · exact ⟨call, config, service.cache.generation, calls_setCall_self⟩
      · obtain ⟨builder, config', generation', building⟩ :=
          (sound.collected path').mp collecting
        refine ⟨builder, config', generation', ?_⟩
        exact (calls_setCall_ne (elsewhere building)).trans building
    · rintro ⟨builder, config', generation', building⟩
      rcases of_calls_setCall building with ⟨_, same⟩ | ⟨_, building⟩
      · cases same
        exact .inl rfl
      · exact .inr ((sound.collected path').mpr ⟨_, _, _, building⟩)
  · intro other path' config' generation' found
    rcases of_calls_setCall found with ⟨rfl, same⟩ | ⟨_, found⟩
    · cases same
      exact ⟨Nat.le_refl _, fun _ =>
        ⟨[], service.history, rfl, List.not_mem_nil⟩⟩
    · have parts := sound.builds other path' config' generation' found
      exact ⟨parts.1, fun current => (parts.2 current).cons nofun⟩
  · intro path' entry found
    obtain ⟨built, expires, produced⟩ := sound.stored path' entry found
    exact ⟨built, expires, produced.cons nofun⟩

/-- A build ends: its call leaves, everyone is woken up, and the table holds
what was stored before or by this build. -/
theorem finished (sound : Sound lifetime service)
    (building : service.calls call =
      some (.building path config generation))
    {cache : RestStatusCache} {result : Except ε JSONValue} {now : ℚ}
    {value : Call ε}
    (sameGeneration : cache.generation = service.cache.generation)
    (sameCollecting : cache.collecting = service.cache.collecting)
    (bounded : cache.entries.entries.length ≤ maxEntries)
    (stored : ∀ path entry, cache.entries.lookup path = some entry →
      ∃ built, entry.expires = built + lifetime ∧
        Produced path entry.config entry.value built
          (.finished call result now :: service.history))
    (idle : ∀ path config generation,
      value ≠ .building path config generation)
    (awake : ∀ path config, value ≠ .waiting path config) :
    Sound lifetime (((service.setCache (cache.release path)).broadcast
      ).setCall call value |>.record (.finished call result now)) := by
  have earlier : ∀ {other path' config' generation'},
      (((service.setCache (cache.release path)).broadcast).setCall call
          value).calls other =
          some (.building path' config' generation') ↔
        other ≠ call ∧ service.calls other =
          some (.building path' config' generation') := by
    intro other path' config' generation'
    constructor
    · intro found
      rcases of_calls_setCall found with ⟨_, same⟩ | ⟨different, found⟩
      · exact absurd same.symm (idle _ _ _)
      · exact ⟨different, calls_broadcast_building.mp found⟩
    · rintro ⟨different, found⟩
      rw [calls_setCall_ne different]
      exact calls_broadcast_building.mpr found
  refine ⟨⟨?_, ?_, ?_, bounded⟩, ?_, ?_, stored⟩
  · intro path' first second config' other generation' otherGeneration one two
    exact sound.oneBuild _ _ _ _ _ _ _ (earlier.mp one).2
      (earlier.mp two).2
  · exact Hits.cons sound.hits fun _ _ _ _ _ impossible => nomatch impossible
  · intro other path' config' found
    rcases of_calls_setCall found with ⟨_, same⟩ | ⟨_, found⟩
    · exact absurd same.symm (awake _ _)
    · exact absurd found calls_broadcast_waiting
  · intro path'
    have collected := sound.collected path'
    refine Finset.mem_erase.trans ?_
    rw [sameCollecting, collected]
    constructor
    · rintro ⟨different, builder, config', generation', found⟩
      refine ⟨builder, config', generation', earlier.mpr ⟨?_, found⟩⟩
      rintro rfl
      cases building.symm.trans found
      exact different rfl
    · rintro ⟨builder, config', generation', found⟩
      have parts := earlier.mp found
      refine ⟨?_, builder, config', generation', parts.2⟩
      rintro rfl
      exact parts.1 (sound.oneBuild _ _ _ _ _ _ _ parts.2 building)
  · intro other path' config' generation' found
    have parts := sound.builds other path' config' generation'
      (earlier.mp found).2
    change generation' ≤ cache.generation ∧ (cache.generation = _ → _)
    rw [sameGeneration]
    exact ⟨parts.1, fun current => (parts.2 current).cons nofun⟩

theorem check (sound : Sound lifetime service) (now : ℚ)
    (ready : service.calls call = some (.ready path config)) :
    Sound lifetime (service.check call path config now) := by
  have before : ∀ path config generation,
      service.calls call ≠ some (.building path config generation) := by
    intro path config generation building
    cases ready.symm.trans building
  rw [Service.check]
  split
  · rename_i collecting
    refine sound.setCall before (by simp) ?_
    intro other config' same
    cases same
    exact collecting
  · rename_i free
    split
    · rename_i value hit
      obtain ⟨entry, found, valid⟩ := Option.bind_eq_some_iff.mp hit
      split at valid
      · rename_i holds
        obtain ⟨built, expires, produced⟩ := sound.stored path entry found
        refine (sound.setCall before (by simp) (by simp)).record (by simp) ?_
        intro call' path' config' value' now' same
        cases same
        refine ⟨built, ?_, ?_⟩
        · have fresh := holds.2
          rw [expires] at fresh
          exact sub_lt_iff_lt_add'.mpr fresh
        · rw [← holds.1, ← Option.some.inj valid]
          exact produced
      · cases valid
    · exact sound.started ready free

theorem finish (sound : Sound lifetime service)
    (building : service.calls call =
      some (.building path config generation))
    (result : Except ε JSONValue) (readings : String → ℚ) (now : ℚ) :
    Sound lifetime (service.finish lifetime call path config generation
      result readings now) := by
  have kept : ∀ path entry, service.cache.entries.lookup path = some entry →
      ∃ built, entry.expires = built + lifetime ∧
        Produced path entry.config entry.value built
          (.finished call result now :: service.history) := by
    intro path entry found
    obtain ⟨built, expires, produced⟩ := sound.stored path entry found
    exact ⟨built, expires, produced.cons nofun⟩
  cases result with
  | error error =>
      exact sound.finished building rfl rfl sound.bounded kept (by simp)
          (by simp)
  | ok value =>
      have since := (sound.builds call path config generation building).2
      rw [Service.finish]
      by_cases current : service.cache.generation = generation
      · rw [finishBuild, if_pos current]
        refine sound.finished building rfl rfl (length_store_le ..) ?_
          (by simp) (by simp)
        intro other entry found
        rcases lookup_store found with earlier | ⟨rfl, rfl⟩
        · exact kept other entry earlier
        · exact ⟨now, rfl, call, [], service.history, rfl,
            List.not_mem_nil, since current⟩
      · rw [finishBuild, if_neg current]
        exact sound.finished building rfl rfl sound.bounded kept (by simp)
          (by simp)

theorem step (sound : Sound lifetime service) {action : Action ε}
    (performed : Step lifetime service action after) :
    Sound lifetime after := by
  rw [Step] at performed
  cases action with
  | invalidate =>
      rw [← Option.some.inj performed]
      exact sound.invalidated
  | get call path config =>
      rw [next] at performed
      split at performed
      · rename_i fresh
        rw [← Option.some.inj performed]
        refine sound.setCall ?_ (by simp) (by simp)
        intro path config generation building
        cases fresh.symm.trans building
      · cases performed
  | wake call =>
      rw [next] at performed
      split at performed
      · rename_i path config asleep
        rw [← Option.some.inj performed]
        refine sound.setCall ?_ (by simp) (by simp)
        intro path config generation building
        cases asleep.symm.trans building
      · cases performed
  | check call now =>
      rw [next] at performed
      split at performed
      · rename_i path config ready
        rw [← Option.some.inj performed]
        exact sound.check now ready
      · cases performed
  | finish call result readings now =>
      rw [next] at performed
      split at performed
      · rename_i path config generation building
        rw [← Option.some.inj performed]
        exact sound.finish building result readings now
      · cases performed

theorem initial (lifetime : ℚ) : Sound lifetime ({} : Service ε) := by
  refine ⟨⟨nofun, ?_, nofun, Nat.zero_le _⟩, ?_, nofun, nofun⟩
  · intro later call path config value now earlier same
    cases later <;> cases same
  · intro path
    constructor
    · intro member
      cases member
    · rintro ⟨call, config, generation, impossible⟩
      cases impossible

end Sound

/-- What a failed build leaves: the table as it was, and no one asleep. -/
theorem finish_error {error : ε} {readings : String → ℚ} {now : ℚ}
    (performed : Step lifetime service
      (.finish call (.error error) readings now) after) :
    after.cache.entries = service.cache.entries ∧
      after.calls call = some (.threw error) ∧
      ∀ other path config,
        after.calls other ≠ some (.waiting path config) := by
  rw [Step, next] at performed
  split at performed
  · rw [← Option.some.inj performed]
    refine ⟨rfl, calls_setCall_self, ?_⟩
    intro other path config found
    rcases of_calls_setCall found with ⟨_, same⟩ | ⟨_, found⟩
    · cases same
    · exact calls_broadcast_waiting found
  · cases performed

/-- In every run one build a path is running, every hit is fresh, no call
waits without a build, the table is bounded, and a failure is not kept. -/
theorem status_cache_of_runs
    (run : Transitions.Runs (Step lifetime) ({} : Service ε) service) :
    NeverHides lifetime service ∧
      ∀ call error readings now after,
        Step lifetime service (.finish call (.error error) readings now)
          after →
        after.cache.entries = service.cache.entries ∧
          after.calls call = some (.threw error) ∧
          ∀ other path config,
            after.calls other ≠ some (.waiting path config) := by
  have sound : Sound lifetime service :=
    Transitions.invariant_of_runs (Sound lifetime)
      (fun _ _ _ before performed => before.step performed)
      (Sound.initial lifetime) run
  exact ⟨sound.toNeverHides, fun _ _ _ _ _ performed =>
    finish_error performed⟩

/-- The second of two calls returns what the first one built. -/
theorem status_cache_of_runs_hit :
    ∃ service : Service Unit,
      service.history.head? = some (.hit 1 "/stack" none .null 1) ∧
        NeverHides 15 service := by
  have folded : [Action.get 0 "/stack" none, .check 0 0,
      .finish 0 (.ok .null) (fun _ => 0) 0, .get 1 "/stack" none,
      .check 1 1].foldlM (fun service action =>
        if (fun _ _ => True : Service Unit → Action Unit → Prop)
          service action then next 15 service action else none) {} =
        some _ := rfl
  exact ⟨_, by with_unfolding_all rfl, (status_cache_of_runs
    (Transitions.Runs.guarded_foldlM folded).of_guarded).1⟩

end Service

end RestStatusCache

end Vzctl
