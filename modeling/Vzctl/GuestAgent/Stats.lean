import Vzctl.Lib.NearestEven
import Vzctl.Lib.NetURL

/-!
# Statistics of the guest

The collector of the guest agent with the parsers for the files under `/proc`.
A computation keeps the unsigned subtractions that it makes.
-/

namespace Vzctl

namespace GuestStats

open NetURL (Text text byte spaces isDigit)

/-! ## Subtractions -/

structure Subtraction where
  minuend : UInt64
  subtrahend : UInt64
  deriving DecidableEq, Repr

/-- A value and the subtractions that were made for it. -/
structure Traced (α : Type) where
  value : α
  subtractions : List Subtraction
  deriving DecidableEq, Repr

instance : Monad Traced where
  pure value := ⟨value, []⟩
  bind first next :=
    ⟨(next first.value).value,
      first.subtractions ++ (next first.value).subtractions⟩

def subtract (minuend subtrahend : UInt64) : Traced UInt64 :=
  ⟨minuend - subtrahend, [⟨minuend, subtrahend⟩]⟩

/-! ## Texts -/

/-- `bufio.Scanner` stops at a line that does not fit into its buffer. -/
def longestLine : Nat := 64 * 1024 - 1

/-- The lines of a text without their ends. -/
def scanLines (whole : Text) : List Text :=
  let lines := whole.splitOn 10
  let ended := if lines.getLast? = some [] then lines.dropLast else lines
  (ended.takeWhile fun line => line.length ≤ longestLine).map fun line =>
    if line.getLast? = some 13 then line.dropLast else line

def fieldsUpTo : Nat → Text → Text → List Text
  | rounds + 1, word, letter :: rest =>
      match spaces.find? (·.isPrefixOf (letter :: rest)) with
      | some space =>
          (if word = [] then [] else [word]) ++
            fieldsUpTo rounds [] ((letter :: rest).drop space.length)
      | none => fieldsUpTo rounds (word ++ [letter]) rest
  | _, word, _ => if word = [] then [] else [word]

/-- `strings.Fields`. -/
def fields (whole : Text) : List Text := fieldsUpTo whole.length [] whole

/-- `strconv.ParseUint` for decimal numbers of 64 bits. -/
def parseUint (digits : Text) : Option UInt64 :=
  let value := digits.foldl
    (fun value digit => value * 10 + (digit.toNat - 48)) 0
  if digits ≠ [] ∧ digits.all isDigit = true ∧ value < 2 ^ 64 then
    some (UInt64.ofNat value)
  else none

/-! ## Files under `/proc` -/

/-- The counters of the line for all processors. -/
def cpuValues (whole : Text) : Except String (List UInt64) :=
  match (scanLines whole).find? ((text "cpu ").isPrefixOf ·) with
  | none => .error "missing cpu line in /proc/stat"
  | some line =>
      if (fields line).length < 5 then
        .error "invalid /proc/stat cpu line"
      else
        match (fields line).tail.mapM parseUint with
        | none => .error "invalid /proc/stat counter"
        | some values => .ok values

/-- Idle time and all time; the time of guests is in the time of users. -/
def idleTotal (values : List UInt64) : Traced (UInt64 × UInt64) := do
  let idle := values.getD 3 0
  let idle := if 4 < values.length then idle + values.getD 4 0 else idle
  let total := values.foldl (· + ·) 0
  if 8 < values.length then
    let total ← subtract total (values.getD 8 0)
    if 9 < values.length then
      let total ← subtract total (values.getD 9 0)
      return (idle, total)
    else return (idle, total)
  else return (idle, total)

def parseCPUStat (whole : Text) :
    Except String (Traced (UInt64 × UInt64)) := do
  let values ← cpuValues whole
  return idleTotal values

/-- A float of 64 bits; no number here leaves the range of its exponents. -/
def float64 (x : ℚ) : ℚ := NearestEven.nearest 53 x

structure MemoryUse where
  usedMiB : Int
  totalMiB : Int
  percent : ℚ
  deriving DecidableEq, Repr

def meminfoLine (found : Option UInt64 × Option UInt64) (line : Text) :
    Except String (Option UInt64 × Option UInt64) :=
  match fields line with
  | name :: value :: _ =>
      if name = text "MemTotal:" then
        match parseUint value with
        | none => .error "invalid MemTotal"
        | some total => .ok (some total, found.2)
      else if name = text "MemAvailable:" then
        match parseUint value with
        | none => .error "invalid MemAvailable"
        | some available => .ok (found.1, some available)
      else .ok found
  | _ => .ok found

/-- All memory and what of it is available. -/
def memoryCounters (whole : Text) : Except String (UInt64 × UInt64) := do
  match ← (scanLines whole).foldlM meminfoLine (none, none) with
  | (some total, some available) =>
      if total = 0 then throw "incomplete /proc/meminfo"
      else return (total, available)
  | _ => throw "incomplete /proc/meminfo"

def memoryUse (totalKB availableKB : UInt64) : Traced MemoryUse := do
  let usedKB ← subtract totalKB availableKB
  return {
    usedMiB := (usedKB / 1024).toNat
    totalMiB := (totalKB / 1024).toNat
    percent := float64 (float64 (100 * float64 usedKB.toNat) /
      float64 totalKB.toNat) }

def parseMeminfo (whole : Text) : Except String (Traced MemoryUse) := do
  let (total, available) ← memoryCounters whole
  return memoryUse total available

def isWholeDisk (name : Text) : Bool :=
  if ["loop", "ram", "zram", "fd", "sr", "dm-"].any
      fun front => (text front).isPrefixOf name then false
  else if name.tails.any ((text "nvme").isPrefixOf ·) then !name.contains (byte 'p')
  else
    match name.getLast? with
    | none => false
    | some last => !isDigit last

def diskLine (sums : UInt64 × UInt64) (line : Text) : UInt64 × UInt64 :=
  let words := fields line
  if words.length < 8 then sums
  else if isWholeDisk (words.getD 2 []) = false then sums
  else
    match parseUint (words.getD 3 []), parseUint (words.getD 7 []) with
    | some reads, some writes => (sums.1 + reads, sums.2 + writes)
    | _, _ => sums

def parseDiskstats (whole : Text) : UInt64 × UInt64 :=
  (scanLines whole).foldl diskLine (0, 0)

/-! ## The collector -/

structure CPUSnap where
  idle : UInt64
  total : UInt64
  moment : Int
  deriving DecidableEq, Repr

structure DiskSnap where
  reads : UInt64
  writes : UInt64
  moment : Int
  deriving DecidableEq, Repr

structure StatsCollector where
  lastCPU : Option CPUSnap
  lastDisk : Option DiskSnap
  deriving DecidableEq, Repr

structure TopProcess where
  name : Text
  pid : Int
  deriving DecidableEq, Repr

/-- What a sample reads: the clock in nanoseconds, the files, the load when
that is collected, and the process with most ticks. -/
structure Readings where
  now : Int
  stat : Except String Text
  meminfo : Except String Text
  diskstats : Except String Text
  load1 : Option ℚ
  topProcess : Option TopProcess

structure Sample where
  cpuPercent : Option ℚ
  memory : MemoryUse
  readIOPS : Option ℚ
  writeIOPS : Option ℚ
  load1 : Option ℚ
  topProcess : Option TopProcess
  deriving DecidableEq, Repr

def cpuPercent (previous : Option CPUSnap) (idle total : UInt64) :
    Traced (Option ℚ) :=
  match previous with
  | none => return none
  | some previous => do
      let dIdle ← subtract idle previous.idle
      let dTotal ← subtract total previous.total
      if 0 < dTotal then
        return some (float64 (100 * float64 (1 -
          float64 (float64 dIdle.toNat / float64 dTotal.toNat))))
      else return none

/-- `now.Sub(before).Seconds()`. -/
def secondsSince (now before : Int) : ℚ :=
  let duration := max (-2 ^ 63) (min (2 ^ 63 - 1) (now - before))
  float64 (float64 (duration.tdiv 1000000000) +
    float64 (float64 (duration.tmod 1000000000) / 1000000000))

def iops (previous : Option DiskSnap) (now : Int) (reads writes : UInt64) :
    Traced (Option ℚ × Option ℚ) :=
  match previous with
  | none => return (none, none)
  | some previous => do
      let seconds := secondsSince now previous.moment
      let elapsed := if seconds ≤ 0 then 1 else seconds
      let dReads ← subtract reads previous.reads
      let dWrites ← subtract writes previous.writes
      return (some (float64 (float64 dReads.toNat / elapsed)),
        some (float64 (float64 dWrites.toNat / elapsed)))

/-- A sample that fails leaves the collector as it is. -/
def sample (collector : StatsCollector) (readings : Readings) :
    Except String (StatsCollector × Traced Sample) := do
  let cpuText ← readings.stat
  let memText ← readings.meminfo
  let diskText ← readings.diskstats
  let cpu ← parseCPUStat cpuText
  let memory ← parseMeminfo memText
  let (reads, writes) := parseDiskstats diskText
  let (idle, total) := cpu.value
  let next : StatsCollector := {
    lastCPU := some ⟨idle, total, readings.now⟩
    lastDisk := some ⟨reads, writes, readings.now⟩ }
  return (next, do
    let _ ← cpu
    let memory ← memory
    let percent ← cpuPercent collector.lastCPU idle total
    let (readIOPS, writeIOPS) ←
      iops collector.lastDisk readings.now reads writes
    return {
      cpuPercent := percent
      memory := memory
      readIOPS := readIOPS
      writeIOPS := writeIOPS
      load1 := readings.load1
      topProcess := readings.topProcess })

/-- One sample after the other, with those that fail left out. -/
def samples (collector : StatsCollector) : List Readings → List (Traced Sample)
  | [] => []
  | readings :: rest =>
      match sample collector readings with
      | .error _ => samples collector rest
      | .ok (next, result) => result :: samples next rest

def newStatsCollector : StatsCollector := ⟨none, none⟩

end GuestStats

end Vzctl
