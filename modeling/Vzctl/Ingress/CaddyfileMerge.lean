import Mathlib.Data.List.DropRight

/-!
# Joining Caddyfiles

`CaddyfileMerge` and `CaddyProcessPlan` of vz-edge: the Caddyfiles of several
projects as one, and which Caddy children run them.  A text is the list of its
characters, one scalar each.
-/

namespace Vzctl

namespace Ingress

abbrev Source := List Char

/-! ## One file -/

/-- `CharacterSet.whitespacesAndNewlines`. -/
def isWhitespace (character : Char) : Bool :=
  let code := character.toNat
  (9 ≤ code && code ≤ 13) || code == 32 || code == 0x85 || code == 0xA0 ||
    code == 0x1680 || (0x2000 ≤ code && code ≤ 0x200A) || code == 0x2028 ||
    code == 0x2029 || code == 0x202F || code == 0x205F || code == 0x3000

def trimmed (text : Source) : Source :=
  (text.dropWhile isWhitespace).rdropWhile isWhitespace

/-- The loop over `j`: the text up to the brace that brings the depth back to
zero, and the text after it. -/
def closeBlock (depth : Int) : Source → Option (Source × Source)
  | [] => none
  | character :: rest =>
      let opened := if character = '\x7b' then depth + 1 else depth
      if character = '\x7d' then
        if opened - 1 = 0 then some ([character], rest)
        else
          (closeBlock (opened - 1) rest).map fun (global, sites) =>
            (character :: global, sites)
      else
        (closeBlock opened rest).map fun (global, sites) =>
          (character :: global, sites)

def splitLeadingGlobalBlock (source : Source) : Option (Source × Source) :=
  match source.dropWhile isWhitespace with
  | '\x7b' :: rest => closeBlock 0 ('\x7b' :: rest)
  | _ => none

/-! ## All files -/

def joined (parts : List Source) : Source :=
  List.intercalate ['\n', '\n'] parts

def mergeFile (soFar : Source × List Source) (file : Source) :
    Source × List Source :=
  match splitLeadingGlobalBlock file with
  | some (global, sites) =>
      let rest := trimmed sites
      (if soFar.1 = [] then global else soFar.1,
        if rest ≠ [] then soFar.2 ++ [rest] else soFar.2)
  | none => (soFar.1, soFar.2 ++ [file])

def assemble (global : Source) (sites : List Source) : Source :=
  if global = [] then joined sites ++ if sites = [] then [] else ['\n']
  else if sites = [] then global ++ ['\n']
  else global ++ ['\n', '\n'] ++ joined sites ++ ['\n']

def merge (files : List Source) : Source :=
  let kept := (files.map trimmed).filter fun file => file ≠ []
  if kept = [] then []
  else
    let parts := kept.foldl mergeFile ([], [])
    assemble parts.1 parts.2

/-! ## What a file contributes -/

/-- The site blocks of a trimmed file. -/
def sitePart (file : Source) : Source :=
  match splitLeadingGlobalBlock file with
  | some (_, sites) => trimmed sites
  | none => file

theorem append_of_closeBlock {depth : Int} {text global sites : Source}
    (closed : closeBlock depth text = some (global, sites)) :
    text = global ++ sites := by
  induction text generalizing depth global with
  | nil => cases closed
  | cons character rest ih =>
      have deeper : ∀ next,
          ((closeBlock next rest).map fun (global, sites) =>
            (character :: global, sites)) = some (global, sites) →
          character :: rest = global ++ sites := by
        intro next mapped
        obtain ⟨⟨front, back⟩, found, same⟩ := Option.map_eq_some_iff.mp mapped
        cases same
        rw [ih found, List.cons_append]
      by_cases closing : character = '\x7d'
      · simp only [closeBlock, if_pos closing] at closed
        generalize (if character = '\x7b' then depth + 1 else depth) = opened
          at closed
        by_cases outermost : opened - 1 = 0
        · rw [if_pos outermost] at closed
          cases closed
          rfl
        · rw [if_neg outermost] at closed
          exact deeper _ closed
      · simp only [closeBlock, if_neg closing] at closed
        exact deeper _ closed

theorem infix_trimmed (text : Source) : trimmed text <:+: text :=
  (List.rdropWhile_prefix _ _).isInfix.trans
    (List.dropWhile_suffix _).isInfix

theorem infix_sitePart (file : Source) : sitePart file <:+: file := by
  rw [sitePart]
  split
  · rename_i global sites found
    rw [splitLeadingGlobalBlock] at found
    split at found
    · rename_i rest started
      have whole := append_of_closeBlock found
      have behind : sites <:+: file.dropWhile isWhitespace := by
        rw [started, whole]
        exact (List.suffix_append _ _).isInfix
      exact ((infix_trimmed sites).trans behind).trans
        (List.dropWhile_suffix _).isInfix
    · cases found
  · exact ⟨[], [], List.append_nil _⟩

theorem foldl_mergeFile_snd (files : List Source)
    (nonempty : ∀ file ∈ files, file ≠ []) (soFar : Source × List Source) :
    (files.foldl mergeFile soFar).2 =
      soFar.2 ++ (files.map sitePart).filter fun part => part ≠ [] := by
  induction files generalizing soFar with
  | nil => simp
  | cons file others ih =>
      have here : (mergeFile soFar file).2 =
          soFar.2 ++ ([file].map sitePart).filter fun part => part ≠ [] := by
        have filled := nonempty file List.mem_cons_self
        cases split : splitLeadingGlobalBlock file with
        | none => simp [mergeFile, sitePart, split, filled]
        | some parts =>
            by_cases empty : trimmed parts.2 = []
            · simp [mergeFile, sitePart, split, empty]
            · simp [mergeFile, sitePart, split, empty]
      have later := ih
        (fun other member => nonempty other (List.mem_cons_of_mem file member))
        (mergeFile soFar file)
      rw [List.foldl_cons, later, here, List.append_assoc, ← List.filter_append,
        ← List.map_append, List.singleton_append]

theorem foldl_mergeFile_fst (files : List Source) (soFar : Source × List Source)
    (settled : soFar.1 ≠ []) : (files.foldl mergeFile soFar).1 = soFar.1 := by
  induction files generalizing soFar with
  | nil => rfl
  | cons file others ih =>
      have here : (mergeFile soFar file).1 = soFar.1 := by
        cases split : splitLeadingGlobalBlock file with
        | none => simp [mergeFile, split]
        | some parts => simp [mergeFile, split, settled]
      rw [List.foldl_cons, ih _ (here.symm ▸ settled), here]

theorem infix_joined {part : Source} {parts : List Source}
    (member : part ∈ parts) : part <:+: joined parts := by
  induction parts with
  | nil => cases member
  | cons head tail ih =>
      cases tail with
      | nil =>
          have whole : joined [head] = head := List.intercalate_singleton
          cases List.mem_singleton.mp member
          exact whole.symm ▸ List.infix_rfl
      | cons second rest =>
          rw [joined, List.intercalate_cons_cons]
          rcases List.mem_cons.mp member with rfl | later
          · exact (List.prefix_append part _).isInfix.trans
              (List.prefix_append _ _).isInfix
          · exact (ih later).trans
              (List.suffix_append _ _).isInfix

theorem infix_assemble {global part : Source} {sites : List Source}
    (member : part ∈ sites) : part <:+: assemble global sites := by
  have nonempty : sites ≠ [] := List.ne_nil_of_mem member
  rw [assemble, if_neg nonempty, if_neg nonempty]
  split
  · exact (infix_joined member).trans (List.prefix_append _ _).isInfix
  · exact ((infix_joined member).trans (List.suffix_append _ _).isInfix).trans
      (List.prefix_append _ _).isInfix

theorem infix_merge {file : Source} {files : List Source}
    (member : file ∈ files) : sitePart (trimmed file) <:+: merge files := by
  by_cases blank : sitePart (trimmed file) = []
  · rw [blank]
    exact List.nil_infix
  · have filled : trimmed file ≠ [] := by
      intro empty
      rw [empty] at blank
      exact blank rfl
    have kept : trimmed file ∈
        (files.map trimmed).filter fun file => file ≠ [] := by
      rw [List.mem_filter, decide_eq_true_eq]
      exact ⟨List.mem_map_of_mem member, filled⟩
    rw [merge, if_neg (List.ne_nil_of_mem kept)]
    refine infix_assemble ?_
    rw [foldl_mergeFile_snd _ fun other inside => by
      simpa using (List.mem_filter.mp inside).2]
    rw [List.nil_append, List.mem_filter, decide_eq_true_eq]
    exact ⟨List.mem_map_of_mem kept, blank⟩

/-! ## Children -/

structure CaddyIntent where
  project : String
  caddyfile : Source
  binary : String
  backendHTTP : UInt16
  backendHTTPS : UInt16
  workDir : String
  configPath : String
  deriving DecidableEq

structure Child where
  project : String
  name : String
  binary : String
  backendHTTP : UInt16
  workDir : String
  configPath : String
  caddyfile : Source
  reapWorkDirs : List String
  shared : Bool
  deriving DecidableEq

def canShare (first : CaddyIntent) (intents : List CaddyIntent) : Bool :=
  intents.all fun intent =>
    intent.binary == first.binary &&
      intent.backendHTTP == first.backendHTTP &&
      intent.backendHTTPS == first.backendHTTPS

/-- `CaddyProcessPlan.children`. -/
def children : List CaddyIntent → List Child
  | [] => []
  | first :: others =>
      let intents := first :: others
      if canShare first intents then
        [{ project := "shared"
           name := "caddy-shared"
           binary := first.binary
           backendHTTP := first.backendHTTP
           workDir := ""
           configPath := ""
           caddyfile := merge (intents.map CaddyIntent.caddyfile)
           reapWorkDirs := intents.map CaddyIntent.workDir
           shared := true }]
      else
        intents.map fun intent =>
          { project := intent.project
            name := "caddy-" ++ intent.project
            binary := intent.binary
            backendHTTP := intent.backendHTTP
            workDir := intent.workDir
            configPath := intent.configPath
            caddyfile := intent.caddyfile
            reapWorkDirs := []
            shared := false }

end Ingress

end Vzctl
