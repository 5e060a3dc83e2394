import Vzctl.GuestAgent.Stats

/-!
# Statistics stay in range

The percentages of a sample lie between 0 and 100 and no subtraction wraps
exactly when the counters agree with each other and with those before.
-/

namespace Vzctl

namespace GuestStats

open NetURL (Text)
open NearestEven

/-! ## Subtractions that do not wrap -/

namespace Traced

variable {α β : Type}

/-- No subtraction wraps around. -/
def Exact (traced : Traced α) : Prop :=
  ∀ made ∈ traced.subtractions, made.subtrahend ≤ made.minuend

@[simp] theorem exact_pure (value : α) : Exact (pure value) := by
  intro made member
  cases member

@[simp] theorem exact_bind (first : Traced α) (next : α → Traced β) :
    (first >>= next).Exact ↔ first.Exact ∧ (next first.value).Exact :=
  List.forall_mem_append

@[simp] theorem exact_subtract (minuend subtrahend : UInt64) :
    (subtract minuend subtrahend).Exact ↔ subtrahend ≤ minuend :=
  List.forall_mem_singleton

@[simp] theorem value_pure (value : α) :
    (pure value : Traced α).value = value := rfl

@[simp] theorem value_bind (first : Traced α) (next : α → Traced β) :
    (first >>= next).value = (next first.value).value := rfl

@[simp] theorem value_subtract (minuend subtrahend : UInt64) :
    (subtract minuend subtrahend).value = minuend - subtrahend := rfl

end Traced

/-! ## Percentages -/

section Percentages

variable {x y : ℚ}

theorem float64_nonneg (nonneg : 0 ≤ x) : 0 ≤ float64 x :=
  nearest_nonneg (by norm_num) nonneg

theorem float64_mono (nonneg : 0 ≤ x) (le : x ≤ y) :
    float64 x ≤ float64 y := nearest_mono (by norm_num) nonneg le

theorem float64_natCast {n : ℕ} (small : n < 2 ^ 53) : float64 n = n :=
  nearest_of_representable (representable_natCast small)

theorem representable_float64 (nonneg : 0 ≤ x) :
    Representable 53 (float64 x) :=
  representable_nearest (by norm_num) nonneg

theorem float64_pos (positive : 0 < x) : 0 < float64 x :=
  nearest_pos (by norm_num) positive

theorem idlePercent_range_iff (idle total : ℕ) (some : 0 < total) :
    let percent := float64 (100 * float64 (1 -
      float64 (float64 idle / float64 total)))
    0 ≤ percent ∧ percent ≤ 100 ↔ float64 idle ≤ float64 total := by
  have idleNonneg : (0 : ℚ) ≤ idle := Nat.cast_nonneg idle
  have totalPos : (0 : ℚ) < total := Nat.cast_pos.mpr some
  have quotient := @nearest_div_le_one_iff 53 _ _ (by norm_num)
    (representable_float64 idleNonneg)
    (representable_float64 totalPos.le) (float64_pos totalPos)
  rw [← quotient]
  have nonneg : 0 ≤ float64 (float64 idle / float64 total) :=
    float64_nonneg (div_nonneg (float64_nonneg idleNonneg)
      (float64_nonneg totalPos.le))
  constructor
  · intro range
    by_contra above
    rw [not_le] at above
    have busy : float64 (1 - float64 (float64 idle / float64 total)) < 0 :=
      nearest_neg (by norm_num) (sub_neg.mpr above)
    have percent : float64 (100 * float64 (1 -
        float64 (float64 idle / float64 total))) < 0 :=
      nearest_neg (by norm_num) (by linarith)
    exact absurd range.1 (not_le.mpr percent)
  · intro le
    have one : float64 1 = 1 := by
      have same := float64_natCast (n := 1) (by norm_num)
      rwa [Nat.cast_one] at same
    have hundred : float64 100 = 100 := by
      have same := float64_natCast (n := 100) (by norm_num)
      exact_mod_cast same
    have busyNonneg := float64_nonneg (sub_nonneg.mpr le)
    have busyLe := float64_mono (sub_nonneg.mpr le)
      (sub_le_self 1 nonneg)
    rw [one] at busyLe
    refine ⟨float64_nonneg (by positivity), ?_⟩
    have mono := float64_mono (by positivity)
      (by linarith : 100 * float64 (1 - nearest 53
        (float64 idle / float64 total)) ≤ 100)
    rwa [hundred] at mono

/-- Multiplying by a hundred rounds, so that all memory in use may come out as
more than a hundred percent. -/
theorem memoryPercent_range_iff (used total : ℕ) (some : 0 < total)
    (le : used ≤ total) :
    let percent := float64 (float64 (100 * float64 used) / float64 total)
    0 ≤ percent ∧ percent ≤ 100 ↔
      float64 used < float64 total ∨
        float64 (100 * float64 total) ≤ (100 + 1 / 2 ^ 47) * float64 total := by
  have usedNonneg : (0 : ℚ) ≤ used := Nat.cast_nonneg used
  have totalPos : (0 : ℚ) < total := Nat.cast_pos.mpr some
  have floatPos := float64_pos totalPos
  have product : 0 ≤ float64 (100 * float64 used) :=
    float64_nonneg (mul_nonneg (by norm_num) (float64_nonneg usedNonneg))
  have quotient := div_nonneg product floatPos.le
  have most : float64 (float64 (100 * float64 used) / float64 total) ≤ 100 ↔
      float64 (100 * float64 used) ≤ (100 + 1 / 2 ^ 47) * float64 total := by
    have bound := @nearest_le_iff 53 _ (25 * 2 ^ 48) (-46) (by norm_num) (by norm_num) (by norm_num)
      (by norm_num) quotient
    rw [div_le_iff₀ floatPos] at bound
    have left : ((25 * 2 ^ 48 : ℕ) : ℚ) * 2 ^ (-46 : ℤ) = 100 := by norm_num
    have right : (((25 * 2 ^ 48 : ℕ) : ℚ) + 1 / 2) * 2 ^ (-46 : ℤ) =
        100 + 1 / 2 ^ 47 := by norm_num
    rwa [left, right] at bound
  have nonneg := float64_nonneg quotient
  simp only [nonneg, true_and, most]
  have mono := float64_mono usedNonneg (Nat.cast_le.mpr le)
  rcases mono.lt_or_eq with less | same
  · apply iff_of_true _ (.inl less)
    have rounded := nearest_mul_le_mul (representable_float64 usedNonneg)
      (representable_float64 totalPos.le) (by norm_num : (0 : ℚ) < 100) less
    apply rounded.trans
    exact mul_le_mul_of_nonneg_right (by norm_num) floatPos.le
  · rw [same, lt_self_iff_false, false_or]

end Percentages

/-! ## Counters -/

/-- What a sample parses. -/
structure Counters where
  cpu : List UInt64
  totalKB : UInt64
  availableKB : UInt64
  reads : UInt64
  writes : UInt64
  deriving DecidableEq, Repr

/-- The counters of readings that parse. -/
def parsed (readings : Readings) : Except String Counters := do
  let cpuText ← readings.stat
  let memText ← readings.meminfo
  let diskText ← readings.diskstats
  let cpu ← cpuValues cpuText
  let (totalKB, availableKB) ← memoryCounters memText
  let (reads, writes) := parseDiskstats diskText
  return ⟨cpu, totalKB, availableKB, reads, writes⟩

namespace Counters

variable (counters : Counters)

def idle : UInt64 := (idleTotal counters.cpu).value.1

def total : UInt64 := (idleTotal counters.cpu).value.2

/-- The sum of all times, as the processor adds it. -/
def sum : UInt64 := counters.cpu.foldl (· + ·) 0

/-- The time of guests is a part of the sum and the available memory a part of
all memory; where all of it is in use, multiplying by a hundred does not round
up too far. -/
structure Coherent : Prop where
  guest : counters.cpu.getD 8 0 ≤ counters.sum
  guestNice : counters.cpu.getD 9 0 ≤
    counters.sum - counters.cpu.getD 8 0
  available : counters.availableKB ≤ counters.totalKB
  rounding :
    float64 (counters.totalKB - counters.availableKB).toNat <
        float64 counters.totalKB.toNat ∨
      float64 (100 * float64 counters.totalKB.toNat) ≤
        (100 + 1 / 2 ^ 47) * float64 counters.totalKB.toNat

/-- No counter is smaller than before, and of the time that has passed no more
was idle than there was. -/
structure Follows (before after : Counters) : Prop where
  idle : before.idle ≤ after.idle
  total : before.total ≤ after.total
  share : before.total < after.total →
    float64 (after.idle - before.idle).toNat ≤
      float64 (after.total - before.total).toNat
  reads : before.reads ≤ after.reads
  writes : before.writes ≤ after.writes

/-- What the collector keeps. -/
def kept (moment : Int) : StatsCollector where
  lastCPU := some ⟨counters.idle, counters.total, moment⟩
  lastDisk := some ⟨counters.reads, counters.writes, moment⟩

/-- The sample that is made of the counters. -/
def result (collector : StatsCollector) (readings : Readings) :
    Traced Sample := do
  let _ ← idleTotal counters.cpu
  let memory ← memoryUse counters.totalKB counters.availableKB
  let percent ← cpuPercent collector.lastCPU counters.idle counters.total
  let (readIOPS, writeIOPS) ←
    iops collector.lastDisk readings.now counters.reads counters.writes
  return {
    cpuPercent := percent
    memory := memory
    readIOPS := readIOPS
    writeIOPS := writeIOPS
    load1 := readings.load1
    topProcess := readings.topProcess }

end Counters

section Samples

variable {collector : StatsCollector} {readings : Readings}
  {counters before after : Counters} {moment : Int}

theorem sample_eq :
    sample collector readings = (parsed readings).map fun counters =>
      (counters.kept readings.now, counters.result collector readings) := by
  rw [sample, parsed]
  cases readings.stat with
  | error message => rfl
  | ok cpuText =>
      cases readings.meminfo with
      | error message => rfl
      | ok memText =>
          cases readings.diskstats with
          | error message => rfl
          | ok diskText =>
              simp only [Except.bind, bind, parseCPUStat, parseMeminfo]
              cases cpuValues cpuText with
              | error message => rfl
              | ok cpu =>
                  cases memoryCounters memText with
                  | error message => rfl
                  | ok memory => rfl

/-- What the statistics promise. -/
structure InRange (result : Traced Sample) : Prop where
  cpu : ∀ percent ∈ result.value.cpuPercent, 0 ≤ percent ∧ percent ≤ 100
  memory : 0 ≤ result.value.memory.percent ∧
    result.value.memory.percent ≤ 100
  reads : ∀ value ∈ result.value.readIOPS, 0 ≤ value
  writes : ∀ value ∈ result.value.writeIOPS, 0 ≤ value
  exact : result.Exact

theorem getD_of_length_le {values : List UInt64} {index : Nat}
    (short : values.length ≤ index) : values.getD index 0 = 0 := by
  rw [List.getD_eq_getElem?_getD, List.getElem?_eq_none short]
  rfl

theorem idleTotal_exact_iff {values : List UInt64} :
    (idleTotal values).Exact ↔
      values.getD 8 0 ≤ values.foldl (· + ·) 0 ∧
        values.getD 9 0 ≤ values.foldl (· + ·) 0 - values.getD 8 0 := by
  by_cases guest : 8 < values.length
  · by_cases guestNice : 9 < values.length
    · simp [idleTotal, guest, guestNice]
    · rw [getD_of_length_le (by omega : values.length ≤ 9)]
      simp [idleTotal, guest, guestNice]
  · rw [getD_of_length_le (by omega : values.length ≤ 8),
      getD_of_length_le (by omega : values.length ≤ 9)]
    simp [idleTotal, guest]

theorem cpuPercent_range_iff (previous : CPUSnap) (idle total : UInt64) :
    ((∀ percent ∈ (cpuPercent (some previous) idle total).value,
        0 ≤ percent ∧ percent ≤ 100) ∧
      (cpuPercent (some previous) idle total).Exact) ↔
      previous.idle ≤ idle ∧ previous.total ≤ total ∧
        (previous.total < total →
          float64 (idle - previous.idle).toNat ≤
            float64 (total - previous.total).toNat) := by
  by_cases passed : 0 < total - previous.total
  · have some : 0 < (total - previous.total).toNat := by
      simpa [UInt64.lt_iff_toNat_lt] using passed
    have range := idlePercent_range_iff (idle - previous.idle).toNat
      (total - previous.total).toNat some
    simp only [cpuPercent, Traced.value_bind, Traced.value_subtract, passed,
      if_true, Traced.value_pure, Option.mem_def, Option.some.injEq,
      forall_eq', Traced.exact_bind, Traced.exact_subtract,
      Traced.exact_pure, and_true, range]
    constructor
    · intro held
      exact ⟨held.2.1, held.2.2, fun _ => held.1⟩
    · intro held
      refine ⟨held.2.2 ?_, held.1, held.2.1⟩
      have le := held.2.1
      rw [UInt64.lt_iff_toNat_lt] at passed ⊢
      rw [UInt64.le_iff_toNat_le] at le
      rw [UInt64.toNat_sub_of_le _ _ (UInt64.le_iff_toNat_le.mpr le)]
        at passed
      simp at passed
      omega
  · have same : total = previous.total := by
      have none : total - previous.total = 0 := by grind
      grind
    simp [cpuPercent, same]

theorem iops_nonneg (previous : Option DiskSnap) (now : Int)
    (reads writes : UInt64) :
    (∀ value ∈ (iops previous now reads writes).value.1, 0 ≤ value) ∧
      ∀ value ∈ (iops previous now reads writes).value.2, 0 ≤ value := by
  cases previous with
  | none => simp [iops]
  | some previous =>
      simp only [iops, Traced.value_bind, Traced.value_subtract,
        Traced.value_pure, Option.mem_def, Option.some.injEq, forall_eq']
      generalize secondsSince now previous.moment = seconds
      have elapsed : 0 < if seconds ≤ 0 then 1 else seconds := by
        split
        · exact one_pos
        · rename_i positive
          exact not_le.mp positive
      constructor
      · exact float64_nonneg
          (div_nonneg (float64_nonneg (Nat.cast_nonneg _)) elapsed.le)
      · exact float64_nonneg
          (div_nonneg (float64_nonneg (Nat.cast_nonneg _)) elapsed.le)

theorem memoryUse_range_iff (totalKB availableKB : UInt64)
    (some : totalKB ≠ 0) :
    ((0 ≤ (memoryUse totalKB availableKB).value.percent ∧
        (memoryUse totalKB availableKB).value.percent ≤ 100) ∧
      (memoryUse totalKB availableKB).Exact) ↔
      availableKB ≤ totalKB ∧
        (float64 (totalKB - availableKB).toNat < float64 totalKB.toNat ∨
          float64 (100 * float64 totalKB.toNat) ≤
            (100 + 1 / 2 ^ 47) * float64 totalKB.toNat) := by
  have positive : 0 < totalKB.toNat := by
    apply Nat.pos_of_ne_zero
    intro zero
    exact some (UInt64.toNat_inj.mp zero)
  have exact : (memoryUse totalKB availableKB).Exact ↔
      availableKB ≤ totalKB := by
    simp [memoryUse]
  rw [exact, and_comm]
  apply and_congr_right
  intro le
  have used : (totalKB - availableKB).toNat ≤ totalKB.toNat := by
    rw [UInt64.toNat_sub_of_le _ _ le]
    omega
  exact memoryPercent_range_iff _ _ positive used

theorem totalKB_ne_zero (read : parsed readings = .ok counters) :
    counters.totalKB ≠ 0 := by
  obtain ⟨cpuText, _, more⟩ := Outcome.bind_eq_ok_iff.mp read
  obtain ⟨memText, _, more⟩ := Outcome.bind_eq_ok_iff.mp more
  obtain ⟨diskText, _, more⟩ := Outcome.bind_eq_ok_iff.mp more
  obtain ⟨cpu, _, more⟩ := Outcome.bind_eq_ok_iff.mp more
  obtain ⟨memory, found, same⟩ := Outcome.bind_eq_ok_iff.mp more
  cases same
  obtain ⟨totals, _, complete⟩ := Outcome.bind_eq_ok_iff.mp found
  obtain ⟨total, available⟩ := totals
  cases total with
  | none => cases complete
  | some total =>
      cases available with
      | none => cases complete
      | some available =>
          simp only [] at complete
          split at complete
          · cases complete
          · rename_i notZero
            cases complete
            exact notZero

theorem result_inRange_iff (some : counters.totalKB ≠ 0) :
    InRange (counters.result collector readings) ↔
      counters.Coherent ∧
        ((∀ percent ∈ (cpuPercent collector.lastCPU counters.idle
            counters.total).value, 0 ≤ percent ∧ percent ≤ 100) ∧
          (cpuPercent collector.lastCPU counters.idle
            counters.total).Exact) ∧
        (iops collector.lastDisk readings.now counters.reads
          counters.writes).Exact := by
  have memory := memoryUse_range_iff _ counters.availableKB some
  have time := @idleTotal_exact_iff counters.cpu
  have rates := iops_nonneg collector.lastDisk readings.now counters.reads
    counters.writes
  constructor
  · intro held
    have exact := held.exact
    simp only [Counters.result, Traced.exact_bind, Traced.exact_pure,
      and_true] at exact
    obtain ⟨times, kilobytes, shares, counts⟩ := exact
    have use := memory.mp ⟨held.memory, kilobytes⟩
    exact ⟨⟨(time.mp times).1, (time.mp times).2, use.1, use.2⟩,
      ⟨held.cpu, shares⟩, counts⟩
  · intro held
    obtain ⟨coherent, ⟨range, shares⟩, counts⟩ := held
    have use := memory.mpr ⟨coherent.available, coherent.rounding⟩
    have times := time.mpr ⟨coherent.guest, coherent.guestNice⟩
    refine ⟨range, use.1, rates.1, rates.2, ?_⟩
    simp only [Counters.result, Traced.exact_bind, Traced.exact_pure,
      and_true]
    exact ⟨times, use.2, shares, counts⟩

theorem result_new_inRange_iff (some : counters.totalKB ≠ 0) :
    InRange (counters.result newStatsCollector readings) ↔
      counters.Coherent := by
  rw [result_inRange_iff some]
  simp [newStatsCollector, cpuPercent, iops]

theorem result_kept_inRange_iff (some : after.totalKB ≠ 0) :
    InRange (after.result (before.kept moment) readings) ↔
      after.Coherent ∧ before.Follows after := by
  rw [result_inRange_iff some]
  apply and_congr_right
  intro _
  simp only [Counters.kept]
  rw [cpuPercent_range_iff]
  have counts : (iops (Option.some
      ⟨before.reads, before.writes, moment⟩) readings.now after.reads
        after.writes).Exact ↔
      before.reads ≤ after.reads ∧ before.writes ≤ after.writes := by
    simp [iops]
  rw [counts]
  constructor
  · intro held
    obtain ⟨⟨idle, total, share⟩, reads, writes⟩ := held
    exact ⟨idle, total, share, reads, writes⟩
  · intro held
    exact ⟨⟨held.idle, held.total, held.share⟩, held.reads, held.writes⟩

/-- The counters of all samples that are made. -/
def parsedCounters (readings : List Readings) : List Counters :=
  readings.filterMap fun reading => (parsed reading).toOption

theorem samples_kept_inRange_iff {rest : List Readings} :
    (∀ result ∈ samples (before.kept moment) rest, InRange result) ↔
      (∀ counters ∈ parsedCounters rest, counters.Coherent) ∧
        (before :: parsedCounters rest).IsChain Counters.Follows := by
  induction rest generalizing before moment with
  | nil => simp [samples, parsedCounters]
  | cons readings rest ih =>
      rw [samples, sample_eq]
      cases read : parsed readings with
      | error message =>
          have none : parsedCounters (readings :: rest) =
              parsedCounters rest := by
            simp [parsedCounters, read, Except.toOption]
          rw [none]
          exact ih
      | ok counters =>
          have one : parsedCounters (readings :: rest) =
              counters :: parsedCounters rest := by
            simp [parsedCounters, read, Except.toOption]
          simp only [Except.map, one, List.forall_mem_cons,
            List.isChain_cons_cons, ih,
            result_kept_inRange_iff (totalKB_ne_zero read)]
          constructor
          · intro held
            exact ⟨⟨held.1.1, held.2.1⟩, held.1.2, held.2.2⟩
          · intro held
            exact ⟨⟨held.1.1, held.2.1⟩, held.1.2, held.2.2⟩

end Samples

/-- All statistics are in range exactly when all counters are coherent and no
counter goes backwards. -/
theorem samples_inRange_iff (readings : List Readings) :
    (∀ result ∈ samples newStatsCollector readings, InRange result) ↔
      (∀ counters ∈ parsedCounters readings, counters.Coherent) ∧
        (parsedCounters readings).IsChain Counters.Follows := by
  induction readings with
  | nil => simp [samples, parsedCounters]
  | cons first rest ih =>
      rw [samples, sample_eq]
      cases read : parsed first with
      | error message =>
          have none : parsedCounters (first :: rest) =
              parsedCounters rest := by
            simp [parsedCounters, read, Except.toOption]
          rw [none]
          exact ih
      | ok counters =>
          have one : parsedCounters (first :: rest) =
              counters :: parsedCounters rest := by
            simp [parsedCounters, read, Except.toOption]
          simp only [Except.map, one, List.forall_mem_cons,
            samples_kept_inRange_iff,
            result_new_inRange_iff (totalKB_ne_zero read), and_assoc]

/-- More memory is available than there is. -/
def exampleReadings : Readings where
  now := 0
  stat := .ok (NetURL.text "cpu  10 0 10 70 10\x0a")
  meminfo := .ok (NetURL.text "MemTotal: 1024 kB\x0aMemAvailable: 2048 kB\x0a")
  diskstats := .ok []
  load1 := none
  topProcess := none

theorem available_above_total :
    ¬ ∀ result ∈ samples newStatsCollector [exampleReadings],
      InRange result := by
  intro held
  have wraps : (samples newStatsCollector [exampleReadings]).any
      (fun result => result.subtractions.any
        fun made => made.minuend < made.subtrahend) = true := by
    rfl
  obtain ⟨result, member, wrapped⟩ := List.any_eq_true.mp wraps
  obtain ⟨made, among, less⟩ := List.any_eq_true.mp wrapped
  have exact := (held result member).exact made among
  exact absurd (decide_eq_true_eq.mp less) (UInt64.not_lt.mpr exact)

end GuestStats

end Vzctl
