import Mathlib.Data.List.Basic
import Vzctl.Lib.Outcome

/-!
# Arguments of the docker command

`docker.rs`: the two passes that take vzctl's own options out of the arguments,
and the operation that is read from what remains.
-/

namespace Vzctl

namespace DockerArgs

inductive OutputFormat where
  | human
  | json
  deriving DecidableEq

inductive DockerOp where
  | passthrough (args : List String)
  | ps (all : Bool)
  | inspect (id : String)
  | start (id : String)
  | stop (id : String)
  | restart (id : String)
  | run (image : String) (name : Option String) (env ports cmd : List String)
  deriving DecidableEq

structure ParsedDockerArgs where
  project : Option String
  format : OutputFormat
  op : DockerOp
  deriving DecidableEq

def structuredVerbs : List String :=
  ["ps", "inspect", "start", "stop", "restart", "run"]

/-- `starts_with('-')`. -/
def dashed (arg : String) : Prop := arg.toList.head? = some '-'

instance (arg : String) : Decidable (dashed arg) :=
  inferInstanceAs (Decidable (arg.toList.head? = some '-'))

/-- The loop that takes an option and its values out of the arguments; a
missing value is the empty one. -/
def extractFlag {α : Type} (option : String) (read : String → Except String α)
    (chosen : α) : List String → Except String (α × List String)
  | [] => .ok (chosen, [])
  | arg :: rest =>
      if arg = "--" then
        .ok (chosen, arg :: rest)
      else if arg = option then
        match rest with
        | [] => do
            let chosen ← read ""
            .ok (chosen, [])
        | value :: rest => do
            let chosen ← read value
            extractFlag option read chosen rest
      else do
        let (chosen, out) ← extractFlag option read chosen rest
        .ok (chosen, arg :: out)

def readFormat (value : String) : Except String OutputFormat :=
  if value = "json" then .ok .json
  else if value = "human" then .ok .human
  else if value = "" then .error "--format requires human or json"
  else .error ("unsupported --format: " ++ value)

def extractFormatFlag (args : List String) :
    Except String (OutputFormat × List String) :=
  extractFlag "--format" readFormat .human args

def readProject (value : String) : Except String (Option String) :=
  if value = "" then .error "--project requires a value" else .ok (some value)

def extractProjectFlag (args : List String) :
    Except String (Option String × List String) :=
  extractFlag "--project" readProject none args

/-! ## Structured operations -/

def parsePs (all : Bool) : List String → Except String DockerOp
  | [] => .ok (.ps all)
  | arg :: rest =>
      if arg = "-a" ∨ arg = "--all" then
        parsePs true rest
      else if arg = "--format" then
        match rest with
        | [] => .ok (.ps all)
        | _ :: rest => parsePs all rest
      else
        .error ("unknown docker ps option: " ++ arg)

/-- The loop of the verbs that take one container. -/
def parseId (verb : String) (id : Option String) :
    List String → Except String (Option String)
  | [] => .ok id
  | arg :: rest =>
      if arg = "--format" then
        match rest with
        | [] => .ok id
        | _ :: rest => parseId verb id rest
      else if dashed arg then
        .error ("unknown docker " ++ verb ++ " option: " ++ arg)
      else if id.isNone then
        parseId verb (some arg) rest
      else
        .error ("unexpected argument: " ++ arg)

def requireId (verb : String) (id : Option String) : Except String String :=
  match id with
  | some id => .ok id
  | none => .error ("docker " ++ verb ++ " requires a container id")

structure RunOptions where
  image : Option String := none
  name : Option String := none
  env : List String := []
  ports : List String := []

def RunOptions.finish (options : RunOptions) (cmd : List String) :
    Except String DockerOp :=
  match options.image with
  | some image =>
      .ok (.run image options.name options.env options.ports cmd)
  | none => .error "docker run requires --image"

def parseRun (options : RunOptions) : List String → Except String DockerOp
  | [] => options.finish []
  | arg :: rest =>
      if arg = "--" then
        options.finish rest
      else if arg = "--format" then
        match rest with
        | [] => options.finish []
        | _ :: rest => parseRun options rest
      else if arg = "--image" then
        match rest with
        | [] => .error "--image requires a value"
        | value :: rest => parseRun { options with image := some value } rest
      else if arg = "--name" then
        match rest with
        | [] => .error "--name requires a value"
        | value :: rest => parseRun { options with name := some value } rest
      else if arg = "-e" ∨ arg = "--env" then
        match rest with
        | [] => .error (arg ++ " requires KEY=VALUE")
        | value :: rest =>
            parseRun { options with env := options.env ++ [value] } rest
      else if arg = "-p" ∨ arg = "--publish" then
        match rest with
        | [] => .error (arg ++ " requires host:guest")
        | value :: rest =>
            parseRun { options with ports := options.ports ++ [value] } rest
      else if dashed arg then
        .error ("unknown docker run option: " ++ arg)
      else if options.image.isNone then
        parseRun { options with image := some arg } rest
      else
        options.finish (arg :: rest)

def parseStructuredOp (verb : String) (args : List String) :
    Except String DockerOp :=
  if verb = "ps" then
    parsePs false args
  else if verb = "run" then
    parseRun {} args
  else if verb ∈ ["inspect", "start", "stop", "restart"] then do
    let found ← parseId verb none args
    let id ← requireId verb found
    .ok (if verb = "inspect" then .inspect id
      else if verb = "start" then .start id
      else if verb = "stop" then .stop id
      else .restart id)
  else
    .error ("unknown docker verb: " ++ verb)

/-- `parse_docker_args` behind the extraction of the options. -/
def readOperation : List String → Except String DockerOp
  | [] => .error "usage"
  | arg :: rest =>
      if arg = "-h" ∨ arg = "--help" then .error "help"
      else if arg = "--" then .ok (.passthrough rest)
      else if dashed arg ∨ arg ∉ structuredVerbs then
        .ok (.passthrough (arg :: rest))
      else
        parseStructuredOp arg rest

def parseDockerArgs (args : List String) :
    Except String ParsedDockerArgs := do
  let (format, args) ← extractFormatFlag args
  let (project, rest) ← extractProjectFlag args
  let op ← readOperation rest
  .ok ⟨project, format, op⟩

/-! ## Command lines -/

/-- What stands before the first `--`: words, and the two options with their
values. -/
inductive Item where
  | word (text : String)
  | format (value : String)
  | project (value : String)
  deriving DecidableEq

namespace Item

def args : Item → List String
  | .word text => [text]
  | .format value => ["--format", value]
  | .project value => ["--project", value]

/-- A word is no option, and a project is neither `--` nor `--format`. -/
def Plain : Item → Prop
  | .word text => text ∉ ["--", "--format", "--project"]
  | .format _ => True
  | .project value => value ∉ ["--", "--format"]

def word? : Item → Option String
  | .word text => some text
  | _ => none

def format? : Item → Option String
  | .format value => some value
  | _ => none

def project? : Item → Option String
  | .project value => some value
  | _ => none

end Item

/-- What follows the items: nothing, `--` with more words, or an option without
its value. -/
inductive Ending where
  | finished
  | boundary (tail : List String)
  | bareFormat
  | bareProject
  deriving DecidableEq

def Ending.args : Ending → List String
  | .finished => []
  | .boundary tail => "--" :: tail
  | .bareFormat => ["--format"]
  | .bareProject => ["--project"]

structure CommandLine where
  items : List Item
  ending : Ending
  plain : ∀ item ∈ items, item.Plain

namespace CommandLine

def args (line : CommandLine) : List String :=
  line.items.flatMap Item.args ++ line.ending.args

def words (line : CommandLine) : List String :=
  line.items.filterMap Item.word?

def formats (line : CommandLine) : List String :=
  line.items.filterMap Item.format?

def projects (line : CommandLine) : List String :=
  line.items.filterMap Item.project?

/-- The arguments without vzctl's own options. -/
def remaining (line : CommandLine) : List String :=
  line.words ++ line.ending.args

end CommandLine

/-- No `--project` before the first `--` takes `--` or `--format` for its
value. -/
def Clean : List String → Prop
  | [] => True
  | arg :: rest =>
      if arg = "--" then True
      else if arg = "--format" then
        match rest with
        | [] => True
        | _ :: rest => Clean rest
      else if arg = "--project" then
        match rest with
        | [] => True
        | value :: rest => value ∉ ["--", "--format"] ∧ Clean rest
      else
        Clean rest

theorem exists_commandLine {args : List String} (clean : Clean args) :
    ∃ line : CommandLine, line.args = args := by
  fun_induction Clean args with
  | case1 => exact ⟨⟨[], .finished, by simp⟩, rfl⟩
  | case2 rest => exact ⟨⟨[], .boundary rest, by simp⟩, rfl⟩
  | case3 => exact ⟨⟨[], .bareFormat, by simp⟩, rfl⟩
  | case4 value rest _ ih =>
      obtain ⟨⟨items, ending, plain⟩, rfl⟩ := ih clean
      exact ⟨⟨.format value :: items, ending,
        List.forall_mem_cons.mpr ⟨trivial, plain⟩⟩, rfl⟩
  | case5 => exact ⟨⟨[], .bareProject, by simp⟩, rfl⟩
  | case6 value rest _ _ ih =>
      obtain ⟨⟨items, ending, plain⟩, rfl⟩ := ih clean.2
      exact ⟨⟨.project value :: items, ending,
        List.forall_mem_cons.mpr ⟨clean.1, plain⟩⟩, rfl⟩
  | case7 arg rest noBoundary noFormat noProject ih =>
      obtain ⟨⟨items, ending, plain⟩, rfl⟩ := ih clean
      refine ⟨⟨.word arg :: items, ending,
        List.forall_mem_cons.mpr ⟨?_, plain⟩⟩, rfl⟩
      simp [Item.Plain, noBoundary, noFormat, noProject]

/-! ## The passes on a command line -/

section Passes

variable {α : Type} {option : String} {read : String → Except String α}

theorem extractFlag_word {arg : String} (chosen : α) (rest : List String)
    (word : arg ∉ ["--", option]) :
    extractFlag option read chosen (arg :: rest) =
      (extractFlag option read chosen rest).map (Prod.map id (arg :: ·)) := by
  simp only [List.mem_cons, List.not_mem_nil, or_false, not_or] at word
  rw [extractFlag.eq_def]
  simp only [word, if_false]
  cases extractFlag option read chosen rest <;> rfl

theorem extractFlag_boundary (chosen : α) (tail : List String) :
    extractFlag option read chosen ("--" :: tail) = .ok (chosen, "--" :: tail) := by
  rw [extractFlag.eq_def]
  simp only [if_true]

theorem extractFlag_pair (isOption : option ≠ "--") (chosen : α)
    (value : String) (rest : List String) :
    extractFlag option read chosen (option :: value :: rest) =
      (read value).bind (extractFlag option read · rest) := by
  rw [extractFlag, if_neg isOption, if_pos rfl]
  rfl

theorem extractFlag_skip {skipped : List String} (chosen : α)
    (rest : List String) (apart : ∀ arg ∈ skipped, arg ∉ ["--", option]) :
    extractFlag option read chosen (skipped ++ rest) =
      (extractFlag option read chosen rest).map
        (Prod.map id (skipped ++ ·)) := by
  induction skipped with
  | nil =>
      rw [List.nil_append]
      cases extractFlag option read chosen rest <;> rfl
  | cons arg skipped ih =>
      obtain ⟨here, behind⟩ := List.forall_mem_cons.mp apart
      rw [List.cons_append, extractFlag_word _ _ here, ih behind]
      cases extractFlag option read chosen rest <;> rfl

/-- The item is the option with its value, or holds no such option. -/
def Splits (option : String) (value? : Item → Option String) (item : Item) :
    Prop :=
  match value? item with
  | some value => item.args = [option, value]
  | none => ∀ arg ∈ item.args, arg ∉ ["--", option]

theorem extractFlag_items {value? : Item → Option String} {items : List Item}
    (isOption : option ≠ "--") (chosen : α) (ending : List String)
    (split : ∀ item ∈ items, Splits option value? item) :
    extractFlag option read chosen (items.flatMap Item.args ++ ending) =
      ((items.filterMap value?).foldlM (fun _ => read) chosen).bind
        fun chosen => (extractFlag option read chosen ending).map (Prod.map id
          ((items.filter fun item => (value? item).isNone).flatMap
            Item.args ++ ·)) := by
  induction items generalizing chosen with
  | nil =>
      change extractFlag option read chosen ending =
        (extractFlag option read chosen ending).map id
      cases extractFlag option read chosen ending <;> rfl
  | cons item items ih =>
      obtain ⟨here, behind⟩ := List.forall_mem_cons.mp split
      rw [List.flatMap_cons, List.append_assoc]
      cases isValue : value? item with
      | some value =>
          rw [Splits, isValue] at here
          rw [here, List.filterMap_cons_some isValue, List.filter_cons_of_neg
            (by rw [isValue]; exact Bool.false_ne_true)]
          change extractFlag option read chosen
            (option :: value :: (items.flatMap Item.args ++ ending)) = _
          rw [extractFlag_pair isOption, List.foldlM_cons]
          cases read value with
          | error message => rfl
          | ok next => exact ih next behind
      | none =>
          rw [Splits, isValue] at here
          rw [extractFlag_skip _ _ here, ih chosen behind,
            List.filterMap_cons_none isValue, List.filter_cons_of_pos
            (by rw [isValue]; rfl), List.flatMap_cons]
          cases (items.filterMap value?).foldlM (fun _ => read) chosen with
          | error message => rfl
          | ok next =>
              change Except.map _ (Except.map _ _) = Except.map _ _
              cases extractFlag option read next ending with
              | error message => rfl
              | ok result =>
                  change _ = Except.ok (result.1,
                    item.args ++ _ ++ result.2)
                  rw [List.append_assoc]
                  rfl

end Passes

namespace CommandLine

variable (line : CommandLine)

/-- What the options come to, or the error of the first bad value. -/
def chosenFormat : Except String OutputFormat :=
  (line.formats ++ if line.ending = .bareFormat then [""] else []).foldlM
    (fun _ => readFormat) .human

def chosenProject : Except String (Option String) :=
  (line.projects ++ if line.ending = .bareProject then [""] else []).foldlM
    (fun _ => readProject) none

theorem extractFormatFlag_args :
    extractFormatFlag line.args = line.chosenFormat.map
      (·, (line.items.filter fun item => item.format?.isNone).flatMap
        Item.args ++ line.ending.args) := by
  have split : ∀ item ∈ line.items, Splits "--format" Item.format? item := by
    intro item member
    have plain := line.plain item member
    cases item with
    | word text =>
        intro arg same
        rw [List.mem_singleton.mp same]
        exact fun listed => plain (List.mem_of_mem_take (i := 2) listed)
    | format value => rfl
    | project value =>
        exact List.forall_mem_cons.mpr ⟨by decide,
          List.forall_mem_singleton.mpr plain⟩
  rw [extractFormatFlag, args, extractFlag_items (by decide) _ _ split,
    chosenFormat, List.foldlM_append, formats]
  change Except.bind _ _ = Except.map _ (Except.bind _ _)
  cases (line.items.filterMap Item.format?).foldlM (fun _ => readFormat)
    OutputFormat.human with
  | error message => rfl
  | ok format =>
      cases line.ending with
      | boundary tail =>
          simp only [Except.bind, Ending.args, extractFlag_boundary]
          rfl
      | finished => rfl
      | bareFormat => rfl
      | bareProject => rfl

theorem filter_items (items : List Item) :
    let rest := items.filter fun item => item.format?.isNone
    rest.filterMap Item.project? = items.filterMap Item.project? ∧
      (rest.filter fun item => item.project?.isNone).flatMap Item.args =
        items.filterMap Item.word? := by
  induction items with
  | nil => exact ⟨rfl, rfl⟩
  | cons item items ih =>
      cases item with
      | word text => exact ⟨ih.1, congrArg (text :: ·) ih.2⟩
      | format value => exact ih
      | project value => exact ⟨congrArg (value :: ·) ih.1, ih.2⟩

theorem extractProjectFlag_args :
    extractProjectFlag
        ((line.items.filter fun item => item.format?.isNone).flatMap
          Item.args ++ line.ending.args) =
      line.chosenProject.map (·, line.remaining) := by
  have split : ∀ item ∈ line.items.filter fun item => item.format?.isNone,
      Splits "--project" Item.project? item := by
    intro item member
    obtain ⟨member, kept⟩ := List.mem_filter.mp member
    have plain := line.plain item member
    cases item with
    | word text =>
        intro arg same
        rw [List.mem_singleton.mp same]
        intro listed
        apply plain
        rcases List.mem_pair.mp listed with rfl | rfl <;> decide
    | format value => cases kept
    | project value => rfl
  obtain ⟨projects, words⟩ := filter_items line.items
  rw [extractProjectFlag, extractFlag_items (by decide) _ _ split, projects,
    words, chosenProject, List.foldlM_append, remaining]
  change Except.bind _ _ = Except.map _ (Except.bind _ _)
  rw [CommandLine.projects]
  cases (line.items.filterMap Item.project?).foldlM (fun _ => readProject)
    none with
  | error message => rfl
  | ok project =>
      cases line.ending with
      | boundary tail =>
          simp only [Except.bind, Ending.args, extractFlag_boundary]
          rfl
      | finished => rfl
      | bareFormat => rfl
      | bareProject => rfl

theorem parseDockerArgs_args :
    parseDockerArgs line.args =
      line.chosenFormat.bind fun format =>
        line.chosenProject.bind fun project =>
          (readOperation line.remaining).map (⟨project, format, ·⟩) := by
  rw [parseDockerArgs, extractFormatFlag_args]
  cases line.chosenFormat with
  | error message => rfl
  | ok format =>
      change Except.bind (extractProjectFlag _) _ = Except.bind _ _
      rw [extractProjectFlag_args]
      cases line.chosenProject with
      | error message => rfl
      | ok project =>
          change Except.bind (readOperation _) _ = Except.map _ _
          cases readOperation line.remaining <;> rfl

end CommandLine

/-! ## Arguments of the operations -/

/-- A `--format` stands before the first `--`. -/
def Early (args : List String) : Prop :=
  ∃ front back, args = front ++ "--format" :: back ∧ "--" ∉ front

theorem early_cons {arg : String} {args : List String} (other : arg ≠ "--")
    (early : Early args) : Early (arg :: args) := by
  obtain ⟨front, back, rfl, free⟩ := early
  refine ⟨arg :: front, back, rfl, ?_⟩
  rw [List.mem_cons, not_or]
  exact ⟨Ne.symm other, free⟩

theorem early_here (rest : List String) : Early ("--format" :: rest) :=
  ⟨[], rest, rfl, List.not_mem_nil⟩

theorem parsePs_flags {all : Bool} {args : List String} {op : DockerOp}
    (parsed : parsePs all args = .ok op) (free : ¬ Early args) :
    (∀ flag ∈ args, flag = "-a" ∨ flag = "--all") ∧
      op = .ps (all || args ≠ []) := by
  induction args generalizing all with
  | nil =>
      rw [parsePs, Except.ok.injEq] at parsed
      simp [← parsed]
  | cons arg rest ih =>
      rw [parsePs.eq_def] at parsed
      simp only at parsed
      split at parsed
      · next flag =>
        have other : arg ≠ "--" := by rintro rfl; revert flag; decide
        obtain ⟨flags, same⟩ := ih parsed fun early =>
          free (early_cons other early)
        exact ⟨List.forall_mem_cons.mpr ⟨flag, flags⟩, by simp [same]⟩
      · split at parsed
        · next skipped => exact absurd (skipped ▸ early_here rest) free
        · cases parsed

theorem parseId_reads {verb : String} {id found : Option String}
    {args : List String} (parsed : parseId verb id args = .ok found)
    (free : ¬ Early args) :
    (args = [] ∧ found = id) ∨
      ∃ arg, args = [arg] ∧ ¬ dashed arg ∧ id = none ∧ found = some arg := by
  induction args generalizing id with
  | nil =>
      rw [parseId, Except.ok.injEq] at parsed
      exact .inl ⟨rfl, parsed.symm⟩
  | cons arg rest ih =>
      rw [parseId.eq_def] at parsed
      simp only at parsed
      split at parsed
      · next skipped => exact absurd (skipped ▸ early_here rest) free
      · split at parsed
        · cases parsed
        · next undashed =>
          split at parsed
          · next unset =>
            have other : arg ≠ "--" := by rintro rfl; exact undashed rfl
            have behind := ih parsed fun early => free (early_cons other early)
            rcases behind with ⟨rfl, same⟩ | ⟨_, _, _, isNone, _⟩
            · exact .inr ⟨arg, rfl, undashed, Option.isNone_iff_eq_none.mp unset,
                same⟩
            · cases isNone
          · cases parsed

/-- What the loop of `run` takes at once: an option with its value, or the
image. -/
inductive RunUnit where
  | pair (flag value : String)
  | image (value : String)

namespace RunUnit

def args : RunUnit → List String
  | .pair flag value => [flag, value]
  | .image value => [value]

def Plain : RunUnit → Prop
  | .pair flag _ => flag ∈ ["--format", "--image", "--name", "-e", "--env",
      "-p", "--publish"]
  | .image value => ¬ dashed value

/-- The last image and name count; a `--format` pair is skipped. -/
def apply (options : RunOptions) : RunUnit → RunOptions
  | .pair flag value =>
      if flag = "--image" then { options with image := some value }
      else if flag = "--name" then { options with name := some value }
      else if flag = "-e" ∨ flag = "--env" then
        { options with env := options.env ++ [value] }
      else if flag = "-p" ∨ flag = "--publish" then
        { options with ports := options.ports ++ [value] }
      else options
  | .image value => { options with image := some value }

end RunUnit

/-- What may follow the units of `run`, and the command it stands for. -/
inductive RunEnding : List String → List String → Prop
  | nothing : RunEnding [] []
  | boundary (cmd : List String) : RunEnding ("--" :: cmd) cmd
  | command (arg : String) (rest : List String) (undashed : ¬ dashed arg) :
      RunEnding (arg :: rest) (arg :: rest)
  | bareFormat : RunEnding ["--format"] []

/-- The arguments are units and an ending that give this operation. -/
def RunsAs (options : RunOptions) (args : List String) (op : DockerOp) :
    Prop :=
  ∃ (units : List RunUnit) (ending cmd : List String),
    args = units.flatMap RunUnit.args ++ ending ∧
      (∀ unit ∈ units, unit.Plain) ∧ RunEnding ending cmd ∧
      (units.foldl RunUnit.apply options).finish cmd = .ok op

theorem RunsAs.cons {options : RunOptions} {rest : List String}
    {op : DockerOp} (unit : RunUnit) (plain : unit.Plain)
    (runs : RunsAs (unit.apply options) rest op) :
    RunsAs options (unit.args ++ rest) op := by
  obtain ⟨units, ending, cmd, rfl, plains, ends, finished⟩ := runs
  exact ⟨unit :: units, ending, cmd, (List.append_assoc _ _ _).symm,
    List.forall_mem_cons.mpr ⟨plain, plains⟩, ends, finished⟩

theorem RunsAs.ends {options : RunOptions} {ending cmd : List String}
    {op : DockerOp} (ends : RunEnding ending cmd)
    (finished : options.finish cmd = .ok op) : RunsAs options ending op :=
  ⟨[], ending, cmd, rfl, by simp, ends, finished⟩

theorem parseRun_runsAs {options : RunOptions} {args : List String}
    {op : DockerOp} (parsed : parseRun options args = .ok op) :
    RunsAs options args op := by
  fun_induction parseRun options args with
  | case1 options => exact .ends .nothing parsed
  | case2 options rest => exact .ends (.boundary rest) parsed
  | case3 options => exact .ends .bareFormat parsed
  | case4 options value rest _ ih =>
      exact .cons (.pair "--format" value) (by simp [RunUnit.Plain]) (ih parsed)
  | case5 => cases parsed
  | case6 options value rest _ _ ih =>
      exact .cons (.pair "--image" value) (by simp [RunUnit.Plain]) (ih parsed)
  | case7 => cases parsed
  | case8 options value rest _ _ _ ih =>
      exact .cons (.pair "--name" value) (by simp [RunUnit.Plain]) (ih parsed)
  | case9 => cases parsed
  | case10 options arg _ _ _ _ flag value rest ih =>
      refine .cons (.pair arg value) ?_ ?_
      · rcases flag with rfl | rfl <;> simp [RunUnit.Plain]
      · rcases flag with rfl | rfl <;> exact ih parsed
  | case11 => cases parsed
  | case12 options arg _ _ _ _ _ flag value rest ih =>
      refine .cons (.pair arg value) ?_ ?_
      · rcases flag with rfl | rfl <;> simp [RunUnit.Plain]
      · rcases flag with rfl | rfl <;> exact ih parsed
  | case13 => cases parsed
  | case14 options arg rest _ _ _ _ _ _ undashed _ ih =>
      exact .cons (.image arg) undashed (ih parsed)
  | case15 options arg rest _ _ _ _ _ _ undashed =>
      exact .ends (.command arg rest undashed) parsed

/-! ## What a command line becomes -/

/-- Every argument has its place in the operation.  A `run` skips a `--format`
only where one of its options took `--` for its value. -/
def Accounted (args : List String) : DockerOp → Prop
  | .passthrough rest =>
      args = "--" :: rest ∨ (args = rest ∧ rest.head? ≠ some "--")
  | .ps all =>
      ∃ flags, args = "ps" :: flags ∧
        (∀ flag ∈ flags, flag = "-a" ∨ flag = "--all") ∧
        (all = true ↔ flags ≠ [])
  | .inspect id => args = ["inspect", id] ∧ ¬ dashed id
  | .start id => args = ["start", id] ∧ ¬ dashed id
  | .stop id => args = ["stop", id] ∧ ¬ dashed id
  | .restart id => args = ["restart", id] ∧ ¬ dashed id
  | .run image name env ports cmd =>
      ∃ (units : List RunUnit) (ending : List String),
        args = "run" :: (units.flatMap RunUnit.args ++ ending) ∧
        (∀ unit ∈ units, unit.Plain) ∧ RunEnding ending cmd ∧
        units.foldl RunUnit.apply {} = ⟨some image, name, env, ports⟩ ∧
        ("--" ∉ units.flatMap RunUnit.args →
          "--format" ∉ units.flatMap RunUnit.args ∧ ending ≠ ["--format"])

theorem parseStructuredOp_accounted {verb : String} {args : List String}
    {op : DockerOp} (parsed : parseStructuredOp verb args = .ok op)
    (free : ¬ Early (verb :: args)) : Accounted (verb :: args) op := by
  rw [parseStructuredOp] at parsed
  split at parsed
  · next same =>
    subst same
    obtain ⟨flags, rfl⟩ := parsePs_flags parsed fun early =>
      free (early_cons (by decide) early)
    exact ⟨args, rfl, flags, by simp⟩
  · split at parsed
    · next same =>
      subst same
      obtain ⟨units, ending, cmd, rfl, plain, ends, finished⟩ :=
        parseRun_runsAs parsed
      rw [RunOptions.finish] at finished
      split at finished
      · next image isImage =>
        cases finished
        refine ⟨units, ending, rfl, plain, ends, ?_, fun noBoundary => ?_⟩
        · rw [← isImage]
        · have free (front back : List String)
              (same : units.flatMap RunUnit.args ++ ending =
                front ++ "--format" :: back)
              (inside : ∀ arg ∈ front, arg ∈ units.flatMap RunUnit.args) :
              False := by
            rw [same] at free
            exact free (early_cons (by decide)
              ⟨front, back, rfl, fun member => noBoundary (inside _ member)⟩)
          constructor
          · intro member
            obtain ⟨front, back, split⟩ := List.append_of_mem member
            refine free front (back ++ ending)
              (by rw [split, List.append_assoc]; rfl) fun arg inside => ?_
            rw [split]
            exact List.mem_append_left _ inside
          · rintro rfl
            exact free _ _ rfl fun arg inside => inside
      · cases finished
    · split at parsed
      · next verbs =>
        obtain ⟨found, reads, required⟩ := Outcome.bind_eq_ok_iff.mp parsed
        have other : verb ≠ "--" := by rintro rfl; revert verbs; decide
        rcases parseId_reads reads fun early => free (early_cons other early)
          with ⟨_, rfl⟩ | ⟨id, rfl, undashed, _, rfl⟩
        · cases required
        · simp only [List.mem_cons, List.not_mem_nil, or_false] at verbs
          rcases verbs with rfl | rfl | rfl | rfl <;> cases required <;>
            exact ⟨rfl, undashed⟩
      · cases parsed

theorem readOperation_accounted {args : List String} {op : DockerOp}
    (parsed : readOperation args = .ok op) (free : ¬ Early args) :
    Accounted args op := by
  cases args with
  | nil => cases parsed
  | cons arg rest =>
      rw [readOperation] at parsed
      split at parsed
      · cases parsed
      · split at parsed
        · next boundary =>
          cases parsed
          exact .inl (boundary ▸ rfl)
        · next noBoundary =>
          split at parsed
          · cases parsed
            exact .inr ⟨rfl, fun same => noBoundary (Option.some.inj same)⟩
          · exact parseStructuredOp_accounted parsed free

theorem Ending.args_ne {ending : Ending} {back : List String}
    (complete : ending ≠ .bareFormat) : ending.args ≠ "--format" :: back := by
  intro same
  cases ending with
  | finished => cases same
  | boundary tail => exact absurd (List.cons.inj same).1 (by decide)
  | bareFormat => exact complete rfl
  | bareProject => exact absurd (List.cons.inj same).1 (by decide)

namespace CommandLine

variable (line : CommandLine)

theorem not_early_remaining (complete : line.ending ≠ .bareFormat) :
    ¬ Early line.remaining := by
  rintro ⟨front, back, same, free⟩
  have plain : "--format" ∉ line.words := by
    intro member
    obtain ⟨item, inside, isWord⟩ := List.mem_filterMap.mp member
    have plain := line.plain item inside
    cases item with
    | word text =>
        cases isWord
        exact plain (by decide)
    | format value => cases isWord
    | project value => cases isWord
  rw [remaining] at same
  rcases List.append_eq_append_iff.mp same.symm with
    ⟨gap, words, rest⟩ | ⟨gap, words, rest⟩
  · -- The option would be a word or the first of the ending.
    cases gap with
    | nil => exact Ending.args_ne complete rest.symm
    | cons arg gap =>
        obtain ⟨rfl, -⟩ := List.cons.inj rest
        exact plain (by rw [words]; simp)
  · -- The ending would reach beyond its first argument.
    cases gap with
    | nil => exact Ending.args_ne complete rest
    | cons arg gap =>
        cases ends : line.ending with
        | bareFormat => exact complete ends
        | finished => rw [ends] at rest; cases rest
        | boundary tail =>
            rw [ends] at rest
            obtain ⟨rfl, -⟩ := List.cons.inj rest
            exact free (by rw [words]; simp)
        | bareProject =>
            rw [ends] at rest
            obtain ⟨-, behind⟩ := List.cons.inj rest
            exact absurd (congrArg List.length behind) (by simp)

/-- The last value decides. -/
def Chosen {α : Type} (read : String → Except String α) (fallback : α)
    (values : List String) (result : α) : Prop :=
  match values.getLast? with
  | some value => read value = .ok result
  | none => result = fallback

theorem chosen_of_foldlM {α : Type} {read : String → Except String α}
    {fallback result : α} {values : List String}
    (read_all : values.foldlM (fun _ => read) fallback = .ok result) :
    Chosen read fallback values result := by
  rcases List.eq_nil_or_concat' values with rfl | ⟨front, last, rfl⟩
  · cases read_all
    rfl
  · rw [List.foldlM_append] at read_all
    obtain ⟨_, _, isLast⟩ := Outcome.bind_eq_ok_iff.mp read_all
    rw [List.foldlM_cons] at isLast
    obtain ⟨value, isValue, same⟩ := Outcome.bind_eq_ok_iff.mp isLast
    cases same
    rw [Chosen, List.getLast?_concat]
    exact isValue

theorem parsed_args {parsed : ParsedDockerArgs}
    (accepted : parseDockerArgs line.args = .ok parsed) :
    Chosen readFormat .human line.formats parsed.format ∧
      Chosen readProject none line.projects parsed.project ∧
      Accounted line.remaining parsed.op := by
  rw [parseDockerArgs_args] at accepted
  obtain ⟨format, isFormat, accepted⟩ := Outcome.bind_eq_ok_iff.mp accepted
  obtain ⟨project, isProject, accepted⟩ := Outcome.bind_eq_ok_iff.mp accepted
  have complete : line.ending ≠ .bareFormat := by
    intro bare
    rw [chosenFormat, if_pos bare, List.foldlM_append] at isFormat
    obtain ⟨_, _, missing⟩ := Outcome.bind_eq_ok_iff.mp isFormat
    cases missing
  have valued : line.ending ≠ .bareProject := by
    intro bare
    rw [chosenProject, if_pos bare, List.foldlM_append] at isProject
    obtain ⟨_, _, missing⟩ := Outcome.bind_eq_ok_iff.mp isProject
    cases missing
  rw [chosenFormat, if_neg complete, List.append_nil] at isFormat
  rw [chosenProject, if_neg valued, List.append_nil] at isProject
  cases operation : readOperation line.remaining with
  | error message =>
      rw [operation] at accepted
      cases accepted
  | ok op =>
      rw [operation] at accepted
      cases accepted
      exact ⟨chosen_of_foldlM isFormat, chosen_of_foldlM isProject,
        readOperation_accounted operation (not_early_remaining line complete)⟩

/-- The same words, values of each option and ending, each in order. -/
structure SameParts (line other : CommandLine) : Prop where
  words : other.words = line.words
  formats : other.formats = line.formats
  projects : other.projects = line.projects
  ending : other.ending = line.ending

theorem SameParts.parse_eq {line other : CommandLine}
    (same : line.SameParts other) :
    parseDockerArgs other.args = parseDockerArgs line.args := by
  rw [parseDockerArgs_args, parseDockerArgs_args, chosenFormat, chosenFormat,
    chosenProject, chosenProject, remaining, remaining, same.words,
    same.formats, same.projects, same.ending]

end CommandLine

/-- Where no `--project` takes `--` or `--format` for its value, the two options
count wherever they stand, and no other argument is lost. -/
theorem docker_args_kept {args : List String} (clean : Clean args) :
    ∃ line : CommandLine, line.args = args ∧
      (∀ other, line.SameParts other →
        parseDockerArgs other.args = parseDockerArgs args) ∧
      ∀ parsed, parseDockerArgs args = .ok parsed →
        CommandLine.Chosen readFormat .human line.formats parsed.format ∧
          CommandLine.Chosen readProject none line.projects parsed.project ∧
          Accounted line.remaining parsed.op := by
  obtain ⟨line, rfl⟩ := exists_commandLine clean
  exact ⟨line, rfl, fun other same => same.parse_eq,
    fun parsed accepted => line.parsed_args accepted⟩

theorem docker_args_kept_ps :
    ∃ line : CommandLine, line.args = ["ps", "--format", "json", "-a"] ∧
      Accounted line.remaining (.ps true) := by
  obtain ⟨line, same, -, parsed⟩ :=
    docker_args_kept (show Clean ["ps", "--format", "json", "-a"] by
      simp [Clean])
  exact ⟨line, same, (parsed ⟨none, .json, .ps true⟩ rfl).2.2⟩

/-- Of two values of an option the last counts, wherever they stand. -/
theorem moved_project_counts :
    parseDockerArgs ["--project", "a", "--project", "b", "ps"] =
        .ok ⟨some "b", .human, .ps false⟩ ∧
      parseDockerArgs ["--project", "b", "--project", "a", "ps"] =
        .ok ⟨some "a", .human, .ps false⟩ ∧
      parseDockerArgs ["run", "--image", "a", "--image", "b"] =
        .ok ⟨none, .human, .run "b" none [] [] []⟩ :=
  ⟨rfl, rfl, rfl⟩

end DockerArgs

end Vzctl
