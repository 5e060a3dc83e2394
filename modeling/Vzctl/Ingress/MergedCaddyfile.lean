import Vzctl.Ingress.Deployment

/-!
# The merged Caddyfile of rendered projects

Joining the texts of rendered Caddyfiles gives the text of the Caddyfile with
all their sites.
-/

namespace Vzctl

namespace Ingress

/-! ## Texts without white space at their ends -/

def Solid (text : Source) : Prop :=
  (∃ first, text.head? = some first ∧ isWhitespace first = false) ∧
    ∃ last, text.getLast? = some last ∧ isWhitespace last = false

theorem dropWhile_of_head {text : Source} {first : Char}
    (head : text.head? = some first) (plain : isWhitespace first = false) :
    text.dropWhile isWhitespace = text := by
  cases text with
  | nil => rfl
  | cons character rest =>
      cases head
      exact List.dropWhile_cons_of_neg (ne_true_of_eq_false plain)

theorem trimmed_of_solid {front text back : Source}
    (blankFront : ∀ character ∈ front, isWhitespace character = true)
    (blankBack : ∀ character ∈ back, isWhitespace character = true)
    (solid : Solid text) : trimmed (front ++ text ++ back) = text := by
  obtain ⟨⟨first, head, firstPlain⟩, last, atEnd, lastPlain⟩ := solid
  have started : (text ++ back).head? = some first := by
    rw [List.head?_append, head]
    rfl
  have ended : text.reverse.head? = some last := by
    rw [List.head?_reverse, atEnd]
  have blank : ∀ character ∈ back.reverse, isWhitespace character = true :=
    fun character member => blankBack character (List.mem_reverse.mp member)
  rw [trimmed, List.append_assoc, List.dropWhile_append_of_pos blankFront,
    dropWhile_of_head started firstPlain, List.rdropWhile,
    List.reverse_append, List.dropWhile_append_of_pos blank,
    dropWhile_of_head ended lastPlain, List.reverse_reverse]

theorem blank_newlines :
    ∀ character ∈ ['\n', '\n'], isWhitespace character = true := by
  intro character member
  rcases List.mem_cons.mp member with rfl | later
  · rfl
  · cases List.mem_singleton.mp later
    rfl

theorem blank_nil :
    ∀ character ∈ ([] : Source), isWhitespace character = true :=
  fun _ impossible => nomatch impossible

theorem Solid.append {front back : Source} (frontSolid : Solid front)
    (backSolid : Solid back) (between : Source) :
    Solid (front ++ between ++ back) := by
  obtain ⟨⟨first, head, firstPlain⟩, _⟩ := frontSolid
  obtain ⟨_, last, atEnd, lastPlain⟩ := backSolid
  refine ⟨⟨first, ?_, firstPlain⟩, last, ?_, lastPlain⟩
  · rw [List.append_assoc, List.head?_append, head]
    rfl
  · rw [List.getLast?_append, atEnd]
    rfl

theorem solid_joined {parts : List Source} (nonempty : parts ≠ [])
    (solid : ∀ part ∈ parts, Solid part) : Solid (joined parts) := by
  induction parts with
  | nil => exact absurd rfl nonempty
  | cons head tail ih =>
      have headSolid := solid head List.mem_cons_self
      cases tail with
      | nil =>
          rw [joined, List.intercalate_singleton]
          exact headSolid
      | cons second rest =>
          rw [joined, List.intercalate_cons_cons]
          exact headSolid.append (ih (List.cons_ne_nil _ _)
            fun part member => solid part (List.mem_cons_of_mem _ member)) _

theorem joined_append_blankLine {parts : List Source}
    (nonempty : parts ≠ []) :
    joined parts ++ ['\n', '\n'] =
      parts.flatMap fun part => part ++ ['\n', '\n'] := by
  induction parts with
  | nil => exact absurd rfl nonempty
  | cons head tail ih =>
      cases tail with
      | nil =>
          rw [joined, List.intercalate_singleton, List.flatMap_singleton]
      | cons second rest =>
          have later := ih (List.cons_ne_nil _ _)
          rw [joined] at later ⊢
          rw [List.intercalate_cons_cons, List.flatMap_cons, ← later,
            List.append_assoc]

/-! ## The leading block -/

/-- No brace opens or closes a block. -/
def Braceless (text : Source) : Prop :=
  ∀ character ∈ text, character ≠ '\x7b' ∧ character ≠ '\x7d'

theorem closeBlock_braceless {middle rest : Source}
    (braceless : Braceless middle) :
    closeBlock 1 (middle ++ '\x7d' :: rest) =
      some (middle ++ ['\x7d'], rest) := by
  induction middle with
  | nil => rfl
  | cons character others ih =>
      have here := braceless character List.mem_cons_self
      have later := ih fun other member =>
        braceless other (List.mem_cons_of_mem character member)
      rw [List.cons_append, closeBlock]
      simp only [if_neg here.1, if_neg here.2]
      rw [later]
      rfl

theorem splitLeadingGlobalBlock_of_braceless {middle : Source}
    (braceless : Braceless middle) (rest : Source) :
    splitLeadingGlobalBlock ('\x7b' :: middle ++ '\x7d' :: rest) =
      some ('\x7b' :: middle ++ ['\x7d'], rest) := by
  have opened : closeBlock 0 ('\x7b' :: (middle ++ '\x7d' :: rest)) =
      (closeBlock 1 (middle ++ '\x7d' :: rest)).map fun parts =>
        ('\x7b' :: parts.1, parts.2) := rfl
  have start : ('\x7b' :: (middle ++ '\x7d' :: rest)).dropWhile isWhitespace =
      '\x7b' :: (middle ++ '\x7d' :: rest) := rfl
  rw [List.cons_append, splitLeadingGlobalBlock, start]
  exact opened.trans (by rw [closeBlock_braceless braceless]; rfl)

theorem braceless_portText (port : UInt16) : Braceless (portText port) := by
  intro digit member
  have isDigit := Nat.isDigit_of_mem_toDigits (by decide) (by decide) member
  constructor
  · rintro rfl
    cases isDigit
  · rintro rfl
    cases isDigit

theorem Braceless.append {front back : Source} (frontPlain : Braceless front)
    (backPlain : Braceless back) : Braceless (front ++ back) := by
  intro character member
  rcases List.mem_append.mp member with inFront | inBack
  · exact frontPlain character inFront
  · exact backPlain character inBack

instance (text : Source) : Decidable (Braceless text) :=
  List.decidableBAll
    (fun character => character ≠ '\x7b' ∧ character ≠ '\x7d') text

theorem braceless_options {block : GlobalBlock}
    (loopback : block.bind = "127.0.0.1") : Braceless block.options := by
  have address : Braceless block.bind.toList := by
    rw [loopback]
    decide
  have first : Braceless ("\n\tauto_https off\n\thttp_port ".toList ++
      portText block.httpPort) :=
    Braceless.append (by decide) (braceless_portText _)
  have second : Braceless ("\n\thttps_port ".toList ++
      portText block.httpsPort) :=
    Braceless.append (by decide) (braceless_portText _)
  have third : Braceless ("\n\tdefault_bind ".toList ++
      block.bind.toList ++ "\n".toList) :=
    Braceless.append (Braceless.append (by decide) address) (by decide)
  have whole := (first.append second).append third
  unfold GlobalBlock.options
  rw [List.append_assoc, List.append_assoc, List.append_assoc,
    List.append_assoc] at whole ⊢
  exact whole

/-! ## Solid blocks -/

theorem solid_globalBlock (block : GlobalBlock) : Solid block.text := by
  refine ⟨⟨'\x7b', rfl, by decide⟩, '\x7d', ?_, by decide⟩
  exact List.getLast?_concat

theorem head?_append_of_head {front : Source} {first : Char}
    (head : front.head? = some first) (back : Source) :
    (front ++ back).head? = some first := by
  rw [List.head?_append, head]
  rfl

theorem solid_siteBlock (block : SiteBlock) : Solid block.text := by
  cases block with
  | redirect host bind =>
      have start : "http://".toList.head? = some 'h' := by decide
      refine ⟨⟨'h', ?_, by decide⟩, '\x7d', ?_, by decide⟩
      · unfold SiteBlock.text
        iterate 7 apply head?_append_of_head
        exact start
      · exact List.getLast?_concat
  | proxy hosts bind cert key backend =>
      have start : "https://".toList.head? = some 'h' := by decide
      refine ⟨⟨'h', ?_, by decide⟩, '\x7d', ?_, by decide⟩
      · unfold SiteBlock.text
        iterate 11 apply head?_append_of_head
        exact start
      · exact List.getLast?_concat

/-! ## The text of one project -/

namespace Deployment

variable {library : Library} (project : Deployment library)

def sites : List SiteBlock := project.rendered.caddyfile.sites

def globalBlock : GlobalBlock where
  httpPort := project.rendered.caddyHttpPort
  httpsPort := project.rendered.caddyHttpsPort
  bind := project.ingress.bind

def siteText : Source := joined (project.sites.map SiteBlock.text)

def text : Source := project.rendered.caddyfile.text

theorem sites_ne_nil : project.sites ≠ [] := by
  obtain ⟨blocks, rendered, file, _⟩ := project.rendered_spec
  obtain ⟨route, member⟩ :=
    List.exists_mem_of_ne_nil _ project.routes_ne_nil
  obtain ⟨sites, inside, produced⟩ :=
    (Outcome.mem_of_mapM rendered).2 route member
  obtain ⟨_, _, text, _, rfl⟩ := project.renderedRoute_eq_ok_iff.mp produced
  rw [Deployment.sites, file]
  exact List.ne_nil_of_mem (List.mem_flatten.mpr
    ⟨_, inside, List.mem_append_right _ List.mem_cons_self⟩)

theorem solid_siteText : Solid project.siteText := by
  refine solid_joined ?_ ?_
  · intro empty
    exact project.sites_ne_nil (List.map_eq_nil_iff.mp empty)
  · intro part member
    obtain ⟨block, _, rfl⟩ := List.mem_map.mp member
    exact solid_siteBlock block

theorem flatMap_sites :
    (project.sites.flatMap fun block => block.text ++ ['\n', '\n']) =
      project.siteText ++ ['\n', '\n'] := by
  have nonempty : project.sites.map SiteBlock.text ≠ [] := fun empty =>
    project.sites_ne_nil (List.map_eq_nil_iff.mp empty)
  rw [siteText, joined_append_blankLine nonempty, List.flatMap_map]

theorem text_eq :
    project.text = project.globalBlock.text ++ ['\n', '\n'] ++
      project.siteText ++ ['\n', '\n'] := by
  obtain ⟨blocks, _, file, _⟩ := project.rendered_spec
  have started : project.rendered.caddyfile.global =
      some project.globalBlock := by
    rw [file]
    rfl
  rw [text, Caddyfile.text, started, List.append_assoc, ← flatMap_sites]
  rfl

theorem trimmed_text :
    trimmed project.text =
      project.globalBlock.text ++ ['\n', '\n'] ++ project.siteText := by
  have solid := (solid_globalBlock project.globalBlock).append
    project.solid_siteText ['\n', '\n']
  rw [text_eq]
  exact trimmed_of_solid blank_nil blank_newlines solid

theorem split_text :
    splitLeadingGlobalBlock (trimmed project.text) =
      some (project.globalBlock.text,
        ['\n', '\n'] ++ project.siteText) := by
  have braceless : Braceless project.globalBlock.options :=
    braceless_options project.bind_eq
  have closed : project.globalBlock.text ++ ['\n', '\n'] ++
      project.siteText =
        '\x7b' :: project.globalBlock.options ++
          '\x7d' :: (['\n', '\n'] ++ project.siteText) := by
    unfold GlobalBlock.text
    rw [List.append_assoc, List.append_assoc]
    rfl
  rw [trimmed_text, closed]
  exact splitLeadingGlobalBlock_of_braceless braceless _

theorem sitePart_text :
    sitePart (trimmed project.text) = project.siteText := by
  have inner := trimmed_of_solid blank_newlines blank_nil project.solid_siteText
  rw [List.append_nil] at inner
  rw [sitePart, split_text]
  exact inner

theorem globalText_ne_nil : project.globalBlock.text ≠ [] :=
  List.cons_ne_nil _ _

theorem trimmed_text_ne_nil : trimmed project.text ≠ [] := by
  rw [trimmed_text, List.append_assoc]
  exact List.append_ne_nil_of_left_ne_nil project.globalText_ne_nil _

theorem siteText_ne_nil : project.siteText ≠ [] := by
  intro empty
  obtain ⟨⟨_, head, _⟩, _⟩ := project.solid_siteText
  rw [empty] at head
  cases head

end Deployment

/-! ## The merged text -/

section Merged

variable {library : Library}

/-- The sites of all projects behind the global block of the first. -/
def mergedFile (first : Deployment library)
    (others : List (Deployment library)) : Caddyfile where
  global := some first.globalBlock
  sites := (first :: others).flatMap Deployment.sites

theorem merge_append_newline (first : Deployment library)
    (others : List (Deployment library)) :
    merge ((first :: others).map Deployment.text) ++ ['\n'] =
      (mergedFile first others).text := by
  have kept : (((first :: others).map Deployment.text).map trimmed).filter
      (fun file => file ≠ []) =
        (first :: others).map fun project => trimmed project.text := by
    rw [List.map_map, List.filter_eq_self.mpr]
    · rfl
    · intro file member
      obtain ⟨project, _, rfl⟩ := List.mem_map.mp member
      exact decide_eq_true project.trimmed_text_ne_nil
  have filled : ∀ file ∈ (first :: others).map fun project =>
      trimmed project.text, file ≠ [] := by
    intro file member
    obtain ⟨project, _, rfl⟩ := List.mem_map.mp member
    exact project.trimmed_text_ne_nil
  have sites : (((first :: others).map fun project =>
      trimmed project.text).foldl mergeFile ([], [])).2 =
        (first :: others).map Deployment.siteText := by
    rw [foldl_mergeFile_snd _ filled, List.nil_append, List.map_map,
      List.filter_eq_self.mpr]
    · exact List.map_congr_left fun project _ => project.sitePart_text
    · intro part member
      obtain ⟨project, _, rfl⟩ := List.mem_map.mp member
      refine decide_eq_true ?_
      rw [Function.comp_apply, project.sitePart_text]
      exact project.siteText_ne_nil
  have global : (((first :: others).map fun project =>
      trimmed project.text).foldl mergeFile ([], [])).1 =
        first.globalBlock.text := by
    have here : (mergeFile ([], []) (trimmed first.text)).1 =
        first.globalBlock.text := by
      rw [mergeFile, first.split_text]
      rfl
    rw [List.map_cons, List.foldl_cons, foldl_mergeFile_fst, here]
    rw [here]
    exact first.globalText_ne_nil
  have nonempty : (first :: others).map Deployment.siteText ≠ [] :=
    List.cons_ne_nil _ _
  have joinedSites : joined ((first :: others).map Deployment.siteText) ++
      ['\n', '\n'] =
        ((first :: others).flatMap Deployment.sites).flatMap fun block =>
          block.text ++ ['\n', '\n'] := by
    rw [joined_append_blankLine nonempty, List.flatMap_map, List.flatMap_assoc]
    exact List.flatMap_congr fun project _ => project.flatMap_sites.symm
  have started : (first :: others).map (fun project =>
      trimmed project.text) ≠ [] := List.cons_ne_nil _ _
  rw [merge, kept, if_neg started, assemble, sites, global,
    if_neg first.globalText_ne_nil, if_neg nonempty, List.append_assoc,
    List.append_assoc]
  rw [mergedFile, Caddyfile.text, ← joinedSites]
  rfl

theorem infix_merge_of_mem {projects : List (Deployment library)}
    {project : Deployment library} (member : project ∈ projects)
    {block : SiteBlock} (inside : block ∈ project.sites) :
    block.text <:+: merge (projects.map Deployment.text) := by
  have listed : project.text ∈ projects.map Deployment.text :=
    List.mem_map_of_mem member
  have ofProject := infix_merge listed
  rw [project.sitePart_text] at ofProject
  exact (infix_joined (List.mem_map_of_mem inside)).trans ofProject

end Merged

end Ingress

end Vzctl
