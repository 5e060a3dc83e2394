import Mathlib.Data.List.Basic
import Vzctl.Lib.Texts

/-!
# Lexical structure of SQL scripts

How a text is split into code, literals, quoted names, dollar-quoted texts and
comments, by the server or by `psql`, which also ends statements at a
semicolon, replaces variables and takes backslash commands up to the end of
their line.  Strings conform to the standard: a backslash in one stands for
itself.  A lexer reads one character after the other; what it has read of a
text does not depend on what follows.
-/

namespace SqlText

inductive Dialect where
  | server
  | psql
  deriving DecidableEq

inductive Token where
  | code (character : Char)
  | literal (value : List Char)
  | escaped (value : List Char)
  | name (value : List Char)
  | dollar (body : List Char)
  | comment (character : Char)
  | variable (name : List Char)
  | command (text : List Char)
  | terminator
  deriving DecidableEq

/-- What a word has been so far: a sole `E` makes a following literal one with
escapes, and a dollar sign in a word does not quote. -/
inductive Word where
  | none
  | letterE
  | other
  deriving DecidableEq

/-- What is being read.  Texts that are being read are kept in reverse; the
number is the depth of open parentheses outside of quotes. -/
inductive Mode where
  | code (word : Word) (depth : Nat)
  | literal (value : List Char) (depth : Nat)
  | literalQuote (value : List Char) (depth : Nat)
  | escaped (value : List Char) (depth : Nat)
  | escapedBackslash (value : List Char) (depth : Nat)
  | name (value : List Char) (depth : Nat)
  | nameQuote (value : List Char) (depth : Nat)
  | tag (read : List Char) (depth : Nat)
  | dollar (delimiter body : List Char) (depth : Nat)
  | dash (depth : Nat)
  | comment (depth : Nat)
  | slash (depth : Nat)
  | block (star slash : Bool) (level depth : Nat)
  | colon (depth : Nat)
  | variable (name : List Char) (depth : Nat)
  | command (text : List Char) (depth : Nat)
  deriving DecidableEq

def lineFeed : Char := Char.ofNat 10

/-- The first character of a word. -/
def startsWord (character : Char) : Bool :=
  character.isAlpha || character == '_' || 128 ≤ character.toNat

def continuesWord (character : Char) : Bool :=
  startsWord character || character.isDigit

def nextWord (word : Word) (character : Char) : Word :=
  if startsWord character then
    if word = .none ∧ (character = 'E' ∨ character = 'e') then .letterE
    else .other
  else if character.isDigit ∧ word ≠ .none then .other
  else .none

def nextDepth (depth : Nat) (character : Char) : Nat :=
  if character = '(' then depth + 1
  else if character = ')' then depth - 1
  else depth

section Step

variable (dialect : Dialect)

/-- A character outside of quotes. -/
def codeStep (word : Word) (depth : Nat) (character : Char) :
    Mode × List Token :=
  if character = '\'' then
    if word = .letterE then (.escaped [] depth, [])
    else (.literal [] depth, [])
  else if character = '"' then (.name [] depth, [])
  else if character = '$' ∧ word = .none then (.tag [] depth, [])
  else if character = '$' then (.code .other depth, [.code character])
  else if character = '-' then (.dash depth, [])
  else if character = '/' then (.slash depth, [])
  else if character = '\\' ∧ dialect = .psql then (.command [] depth, [])
  else if character = ':' ∧ dialect = .psql then (.colon depth, [])
  else if character = ';' ∧ dialect = .psql ∧ depth = 0 then
    (.code .none depth, [.terminator])
  else
    (.code (nextWord word character) (nextDepth depth character),
      [.code character])

theorem codeStep_quote {word : Word} {depth : Nat}
    (plain : word ≠ .letterE) :
    codeStep dialect word depth '\'' = (.literal [] depth, []) := by
  rw [codeStep, if_pos rfl, if_neg plain]

/-- The character ends what was read, and is outside of quotes itself. -/
def endWith (tokens : List Token) (depth : Nat) (character : Char) :
    Mode × List Token :=
  ((codeStep dialect .none depth character).1,
    tokens ++ (codeStep dialect .none depth character).2)

def step (character : Char) : Mode → Mode × List Token
  | .code word depth => codeStep dialect word depth character
  | .literal value depth =>
      if character = '\'' then (.literalQuote value depth, [])
      else (.literal (character :: value) depth, [])
  | .literalQuote value depth =>
      if character = '\'' then (.literal (character :: value) depth, [])
      else endWith dialect [.literal value.reverse] depth character
  | .escaped value depth =>
      if character = '\'' then
        (.code .none depth, [.escaped value.reverse])
      else if character = '\\' then (.escapedBackslash value depth, [])
      else (.escaped (character :: value) depth, [])
  | .escapedBackslash value depth =>
      (.escaped (character :: '\\' :: value) depth, [])
  | .name value depth =>
      if character = '"' then (.nameQuote value depth, [])
      else (.name (character :: value) depth, [])
  | .nameQuote value depth =>
      if character = '"' then (.name (character :: value) depth, [])
      else endWith dialect [.name value.reverse] depth character
  | .tag read depth =>
      if character = '$' then
        (.dollar ('$' :: read.reverse ++ ['$']) [] depth, [])
      else if startsWord character ∨
          (continuesWord character ∧ read ≠ []) then
        (.tag (character :: read) depth, [])
      else
        endWith dialect (.code '$' :: read.reverse.map .code) depth character
  | .dollar delimiter body depth =>
      if delimiter.reverse <+: character :: body then
        (.code .none depth,
          [.dollar ((character :: body).drop delimiter.length).reverse])
      else (.dollar delimiter (character :: body) depth, [])
  | .dash depth =>
      if character = '-' then
        (.comment depth, [.comment '-', .comment '-'])
      else endWith dialect [.code '-'] depth character
  | .comment depth =>
      if character = lineFeed then
        (.code .none depth, [.code character])
      else (.comment depth, [.comment character])
  | .slash depth =>
      if character = '*' then
        (.block false false 0 depth, [.comment '/', .comment '*'])
      else endWith dialect [.code '/'] depth character
  | .block star slash level depth =>
      if character = '/' ∧ star then
        match level with
        | 0 => (.code .none depth, [.comment character])
        | level + 1 => (.block false false level depth, [.comment character])
      else if character = '*' ∧ slash then
        (.block false false (level + 1) depth, [.comment character])
      else
        (.block (character == '*') (character == '/') level depth,
          [.comment character])
  | .colon depth =>
      if character = ':' then
        (.code .none depth, [.code ':', .code character])
      else if continuesWord character then
        (.variable [character] depth, [])
      else endWith dialect [.code ':'] depth character
  | .variable name depth =>
      if continuesWord character then
        (.variable (character :: name) depth, [])
      else endWith dialect [.variable name.reverse] depth character
  | .command text depth =>
      if character = lineFeed then
        (.code .none depth, [.command text.reverse, .code character])
      else (.command (character :: text) depth, [])

/-- Read a text. -/
def run (mode : Mode) : List Char → Mode × List Token
  | [] => (mode, [])
  | character :: rest =>
      match step dialect character mode with
      | (next, output) =>
          match run next rest with
          | (after, more) => (after, output ++ more)

theorem run_cons (mode : Mode) (character : Char) (rest : List Char) :
    run dialect mode (character :: rest) =
      ((run dialect (step dialect character mode).1 rest).1,
        (step dialect character mode).2 ++
          (run dialect (step dialect character mode).1 rest).2) := rfl

end Step

/-- A text takes the lexer from one mode to another, with these tokens. -/
def Reads (dialect : Dialect) (mode : Mode) (text : List Char) (after : Mode)
    (tokens : List Token) : Prop :=
  run dialect mode text = (after, tokens)

variable {dialect : Dialect} {mode middle after : Mode}
  {text front back value : List Char} {tokens first second : List Token}
  {depth : Nat}

theorem Reads.append (reads : Reads dialect mode front middle first)
    (follows : Reads dialect middle back after second) :
    Reads dialect mode (front ++ back) after (first ++ second) := by
  induction front generalizing mode first with
  | nil =>
      obtain ⟨same, nothing⟩ := Prod.mk.inj reads
      rw [← same] at follows
      rw [← nothing]
      exact follows
  | cons character rest ih =>
      rw [Reads, run_cons] at reads
      obtain ⟨ends, output⟩ := Prod.mk.inj reads
      have start : Reads dialect (step dialect character mode).1 rest middle
          (run dialect (step dialect character mode).1 rest).2 :=
        Prod.ext ends rfl
      have whole := ih start
      rw [Reads] at whole
      rw [Reads, List.cons_append, run_cons, whole]
      rw [← output, List.append_assoc]

theorem Reads.of_step {character : Char}
    (steps : step dialect character mode = (after, tokens)) :
    Reads dialect mode [character] after tokens := by
  rw [Reads, run_cons, steps, run, List.append_nil]

/-! ## Quotes -/

/-- The text of a literal. -/
def quoted (value : List Char) : List Char :=
  '\'' :: (value.flatMap fun character =>
    if character = '\'' then ['\'', '\''] else [character]) ++ ['\'']

theorem reads_quoted_value (read : List Char) :
    Reads dialect (.literal read depth)
      (value.flatMap fun character =>
        if character = '\'' then ['\'', '\''] else [character])
      (.literal (value.reverse ++ read) depth) [] := by
  induction value generalizing read with
  | nil => rfl
  | cons character rest ih =>
      have later := ih (character :: read)
      have here : Reads dialect (.literal read depth)
          (if character = '\'' then ['\'', '\''] else [character])
          (.literal (character :: read) depth) [] := by
        split
        · rename_i quote
          rw [quote]
          rfl
        · rename_i other
          exact Reads.of_step (if_neg other)
      rw [List.flatMap_cons, List.reverse_cons, List.append_assoc]
      exact here.append later

theorem reads_endWith {character : Char} {ended : Mode}
    (ends : step dialect character ended =
      endWith dialect first depth character)
    (follows : Reads dialect (.code .none depth) (character :: back) after
      tokens) :
    Reads dialect ended (character :: back) after (first ++ tokens) := by
  rw [Reads, run_cons] at follows
  obtain ⟨mode, more⟩ := Prod.mk.inj follows
  have same : (endWith dialect first depth character).1 =
      (step dialect character (.code .none depth)).1 := rfl
  have output : (endWith dialect first depth character).2 =
      first ++ (step dialect character (.code .none depth)).2 := rfl
  rw [Reads, run_cons, ends, same, output, List.append_assoc, mode, more]

theorem reads_quoted {character : Char} {word : Word}
    (plain : word ≠ .letterE) (outside : character ≠ '\'')
    (follows : Reads dialect (.code .none depth) (character :: back) after
      tokens) :
    Reads dialect (.code word depth) (quoted value ++ character :: back) after
      (.literal value :: tokens) := by
  have opens : Reads dialect (.code word depth) ['\'']
      (.literal [] depth) [] := by
    exact Reads.of_step (codeStep_quote dialect plain)
  have inside : Reads dialect (.literal [] depth) _
      (.literal (value.reverse ++ []) depth) [] := reads_quoted_value []
  have closes : Reads dialect (.literal (value.reverse ++ []) depth) ['\'']
      (.literalQuote (value.reverse ++ []) depth) [] := by
    rfl
  have ends : step dialect character
      (.literalQuote (value.reverse ++ []) depth) =
        endWith dialect [.literal value] depth character := by
    simp [step, outside]
  have whole := (opens.append (inside.append closes)).append
    (reads_endWith ends follows)
  simpa [quoted] using whole

theorem reads_name_value (simple : '"' ∉ value) (read : List Char) :
    Reads dialect (.name read depth) value
      (.name (value.reverse ++ read) depth) [] := by
  induction value generalizing read with
  | nil => rfl
  | cons character rest ih =>
      rw [List.mem_cons, not_or] at simple
      have here : Reads dialect (.name read depth) [character]
          (.name (character :: read) depth) [] := by
        exact Reads.of_step (if_neg (Ne.symm simple.1))
      have whole := here.append (ih simple.2 _)
      simpa using whole

theorem reads_name {character : Char} {word : Word}
    (simple : '"' ∉ value) (outside : character ≠ '"')
    (follows : Reads dialect (.code .none depth) (character :: back) after
      tokens) :
    Reads dialect (.code word depth)
      ('"' :: value ++ '"' :: character :: back) after
      (.name value :: tokens) := by
  have opens : Reads dialect (.code word depth) ['"'] (.name [] depth) [] := by
    rfl
  have inside : Reads dialect (.name [] depth) value
      (.name (value.reverse ++ []) depth) [] := reads_name_value simple []
  have closes : Reads dialect (.name (value.reverse ++ []) depth) ['"']
      (.nameQuote (value.reverse ++ []) depth) [] := by
    rfl
  have ends : step dialect character
      (.nameQuote (value.reverse ++ []) depth) =
        endWith dialect [.name value] depth character := by
    simp [step, outside]
  have whole := (opens.append (inside.append closes)).append
    (reads_endWith ends follows)
  simpa using whole

/-! ## Dollar quotes -/

/-- A tag is a word. -/
def IsTag : List Char → Prop
  | [] => True
  | first :: rest =>
      startsWord first = true ∧
        ∀ character ∈ rest, continuesWord character = true

def delimiterOf (tag : List Char) : List Char := '$' :: tag ++ ['$']

theorem continuesWord_dollar : continuesWord '$' = false := by decide

theorem reads_tag_rest {tag read : List Char} (started : read ≠ [])
    (word : ∀ character ∈ tag, continuesWord character = true) :
    Reads dialect (.tag read depth) tag (.tag (tag.reverse ++ read) depth)
      [] := by
  induction tag generalizing read with
  | nil => rfl
  | cons character rest ih =>
      have inWord := word character List.mem_cons_self
      have noDollar : character ≠ '$' := by
        intro same
        rw [same, continuesWord_dollar] at inWord
        cases inWord
      have here : Reads dialect (.tag read depth) [character]
          (.tag (character :: read) depth) [] := by
        exact Reads.of_step ((if_neg noDollar).trans
          (if_pos (Or.inr ⟨inWord, started⟩)))
      have whole := here.append (ih (List.cons_ne_nil _ _)
        fun other member => word other (List.mem_cons_of_mem _ member))
      simpa using whole

theorem reads_delimiter {tag : List Char} (isTag : IsTag tag) :
    Reads dialect (.code .none depth) (delimiterOf tag)
      (.dollar (delimiterOf tag) [] depth) [] := by
  have opens : Reads dialect (.code .none depth) ['$'] (.tag [] depth) [] := by
    rfl
  have inside : Reads dialect (.tag [] depth) tag
      (.tag (tag.reverse ++ []) depth) [] := by
    cases tag with
    | nil => rfl
    | cons first rest =>
        have noDollar : first ≠ '$' := by
          intro same
          rw [same] at isTag
          exact absurd isTag.1 (by decide)
        have here : Reads dialect (.tag [] depth) [first]
            (.tag [first] depth) [] := by
          exact Reads.of_step ((if_neg noDollar).trans
            (if_pos (Or.inl isTag.1)))
        have whole := here.append
          (reads_tag_rest (List.cons_ne_nil first []) isTag.2)
        simpa using whole
  have closes : Reads dialect (.tag (tag.reverse ++ []) depth) ['$']
      (.dollar (delimiterOf tag) [] depth) [] := by
    simp [Reads, run, step, delimiterOf]
  have whole := opens.append (inside.append closes)
  simpa [delimiterOf] using whole

/-- The text goes on until the delimiter stands at its end for the first
time. -/
theorem reads_dollar_rest {delimiter body consumed rest : List Char}
    (parts : consumed ++ rest = body ++ delimiter) (more : rest ≠ [])
    (fresh : ¬ delimiter <:+: body ++ delimiter.dropLast)
    (nonempty : delimiter ≠ []) :
    Reads dialect (.dollar delimiter consumed.reverse depth) rest
      (.code .none depth) [.dollar body] := by
  induction rest generalizing consumed with
  | nil => exact absurd rfl more
  | cons character rest ih =>
      have shifted : (consumed ++ [character]) ++ rest = body ++ delimiter := by
        rw [List.append_assoc]
        exact parts
      have reversed : (consumed ++ [character]).reverse =
          character :: consumed.reverse := by
        simp
      by_cases last : rest = []
      · rw [last, List.append_nil] at shifted
        have whole : character :: consumed.reverse =
            delimiter.reverse ++ body.reverse := by
          rw [← reversed, shifted, List.reverse_append]
        have stops : delimiter.reverse <+: character :: consumed.reverse :=
          ⟨body.reverse, whole.symm⟩
        have remains : (character :: consumed.reverse).drop delimiter.length =
            body.reverse := by
          rw [whole]
          exact List.drop_left' (List.length_reverse)
        rw [last]
        exact Reads.of_step ((if_pos stops).trans (by rw [remains,
          List.reverse_reverse]))
      · have goes :
            ¬ delimiter.reverse <+: character :: consumed.reverse := by
          intro stops
          rw [← reversed, List.reverse_prefix] at stops
          have early : consumed ++ [character] <+:
              body ++ delimiter.dropLast := by
            refine ⟨rest.dropLast, ?_⟩
            rw [← List.dropLast_append_of_ne_nil nonempty, ← shifted,
              List.dropLast_append_of_ne_nil last]
          exact fresh (stops.isInfix.trans early.isInfix)
        have here : Reads dialect (.dollar delimiter consumed.reverse depth)
            [character]
            (.dollar delimiter (consumed ++ [character]).reverse depth) [] := by
          rw [reversed]
          exact Reads.of_step (if_neg goes)
        exact here.append (ih shifted last)

theorem reads_dollar {tag body : List Char} (isTag : IsTag tag)
    (fresh : ¬ delimiterOf tag <:+: body ++ (delimiterOf tag).dropLast) :
    Reads dialect (.code .none depth)
      (delimiterOf tag ++ (body ++ delimiterOf tag)) (.code .none depth)
      [.dollar body] := by
  have nonempty : delimiterOf tag ≠ [] := List.cons_ne_nil _ _
  have rest : Reads dialect (.dollar (delimiterOf tag) [] depth)
      (body ++ delimiterOf tag) (.code .none depth) [.dollar body] :=
    reads_dollar_rest (List.nil_append (body ++ delimiterOf tag))
      (by simp [nonempty]) fresh nonempty
  exact (reads_delimiter isTag).append rest

/-! ## Templates -/

/-- A text of a template with its characters, so that these need not be
computed. -/
structure Fixed where
  characters : List Char
  text : String
  same : text = String.ofList characters

/-- A piece of a script; values are named by `ν`.  A statement is ended by a
terminator, a comment or a command by the line feed of the code behind it. -/
inductive Piece (ν : Type) where
  | code (text : Fixed)
  | literal (value : ν)
  | name (value : ν)
  | comment (text : Fixed)
  | command (text : Fixed)
  | dollar (body : ν)
  | terminator

section Templates

variable {ν : Type} (tag : List Char) (values : ν → List Char)

def Piece.rendered : Piece ν → List Char
  | .code text => text.characters
  | .literal value => quoted (values value)
  | .name value => '"' :: values value ++ ['"']
  | .comment text => '-' :: '-' :: text.characters
  | .command text => '\\' :: text.characters
  | .dollar body => delimiterOf tag ++ (values body ++ delimiterOf tag)
  | .terminator => [';']

def Piece.reading : Piece ν → List Token
  | .code text => text.characters.map .code
  | .literal value => [.literal (values value)]
  | .name value => [.name (values value)]
  | .comment text => ('-' :: '-' :: text.characters).map .comment
  | .command text => [.command text.characters]
  | .dollar body => [.dollar (values body)]
  | .terminator => [.terminator]

/-- The script that a template is filled in to. -/
def render (pieces : List (Piece ν)) : List Char :=
  pieces.flatMap (Piece.rendered tag values)

def tokensOf (pieces : List (Piece ν)) : List Token :=
  pieces.flatMap (Piece.reading values)

/-- What follows starts with code, and not with a quote. -/
def startsPlain : List (Piece ν) → Bool
  | .code text :: _ =>
      text.characters.head?.any fun character =>
        character ≠ '\'' && character ≠ '"'
  | .terminator :: _ => true
  | _ => false

def startsLine : List (Piece ν) → Bool
  | .code text :: _ => text.characters.head? == some lineFeed
  | _ => false

/-- The mode behind a template, if it is read as it is written whatever the
values are. -/
def through (dialect : Dialect) : Mode → List (Piece ν) → Option Mode
  | mode, [] => some mode
  | mode, .code text :: rest =>
      if (run dialect mode text.characters).2 = text.characters.map .code then
        through dialect (run dialect mode text.characters).1 rest
      else none
  | .code word depth, .literal _ :: rest =>
      if word ≠ .letterE ∧ startsPlain rest = true then
        through dialect (.code .none depth) rest
      else none
  | .code _ depth, .name _ :: rest =>
      if startsPlain rest = true then through dialect (.code .none depth) rest
      else none
  | .code _ depth, .comment text :: rest =>
      if lineFeed ∉ text.characters ∧ startsLine rest = true then
        through dialect (.code .none depth) rest
      else none
  | .code _ depth, .command text :: rest =>
      if dialect = .psql ∧ lineFeed ∉ text.characters ∧
          startsLine rest = true then
        through dialect (.code .none depth) rest
      else none
  | .code .none depth, .dollar _ :: rest =>
      through dialect (.code .none depth) rest
  | .code _ 0, .terminator :: rest =>
      if dialect = .psql then through dialect (.code .none 0) rest else none
  | _, _ => none

end Templates

/-! ## Reading what was filled in -/

theorem codeStep_lineFeed :
    codeStep dialect .none depth lineFeed =
      (.code .none depth, [.code lineFeed]) := by
  cases dialect <;> rfl

theorem reads_comment {word : Word} (oneLine : lineFeed ∉ text)
    (follows : Reads dialect (.code .none depth) (lineFeed :: back) after
      tokens) :
    Reads dialect (.code word depth)
      ('-' :: '-' :: text ++ lineFeed :: back) after
      (('-' :: '-' :: text).map .comment ++ tokens) := by
  have opens : Reads dialect (.code word depth) ['-', '-'] (.comment depth)
      [.comment '-', .comment '-'] := by
    rfl
  have inside : Reads dialect (.comment depth) text (.comment depth)
      (text.map .comment) := by
    induction text with
    | nil => rfl
    | cons character rest ih =>
        rw [List.mem_cons, not_or] at oneLine
        have here : Reads dialect (.comment depth) [character]
            (.comment depth) [.comment character] := by
          exact Reads.of_step (if_neg (Ne.symm oneLine.1))
        exact here.append (ih oneLine.2)
  have ends : step dialect lineFeed (.comment depth) =
      endWith dialect [] depth lineFeed := by
    rw [endWith, codeStep_lineFeed]
    simp [step]
  have whole := (opens.append inside).append (reads_endWith ends follows)
  simpa using whole

theorem reads_command {word : Word} (oneLine : lineFeed ∉ text)
    (follows : Reads .psql (.code .none depth) (lineFeed :: back) after
      tokens) :
    Reads .psql (.code word depth) ('\\' :: text ++ lineFeed :: back) after
      (.command text :: tokens) := by
  have opens : Reads .psql (.code word depth) ['\\'] (.command [] depth)
      [] := by
    rfl
  have inside : ∀ read, Reads .psql (.command read depth) text
      (.command (text.reverse ++ read) depth) [] := by
    induction text with
    | nil =>
        intro read
        rfl
    | cons character rest ih =>
        intro read
        rw [List.mem_cons, not_or] at oneLine
        have here : Reads .psql (.command read depth) [character]
            (.command (character :: read) depth) [] := by
          exact Reads.of_step (if_neg (Ne.symm oneLine.1))
        have whole := here.append (ih oneLine.2 _)
        simpa using whole
  have ends : step .psql lineFeed (.command (text.reverse ++ []) depth) =
      endWith .psql [.command text] depth lineFeed := by
    rw [endWith, codeStep_lineFeed]
    simp [step]
  have whole := (opens.append (inside [])).append (reads_endWith ends follows)
  simpa using whole

section Filled

variable {ν : Type} {tag : List Char} {values : ν → List Char}
  {pieces : List (Piece ν)}

/-- A name does not end the quotes around it, and a dollar-quoted text not
those. -/
def Piece.Fits (tag : List Char) (values : ν → List Char) : Piece ν → Prop
  | .name value => '"' ∉ values value
  | .dollar body =>
      ¬ delimiterOf tag <:+: values body ++ (delimiterOf tag).dropLast
  | _ => True

theorem exists_of_startsPlain (plain : startsPlain pieces = true) :
    ∃ character back, render tag values pieces = character :: back ∧
      character ≠ '\'' ∧ character ≠ '"' := by
  match pieces, plain with
  | .code text :: rest, plain =>
      cases characters : text.characters with
      | nil => simp [startsPlain, characters] at plain
      | cons first others =>
          simp [startsPlain, characters] at plain
          exact ⟨first, others ++ render tag values rest,
            by simp [render, Piece.rendered, characters], plain⟩
  | .terminator :: rest, _ =>
      exact ⟨';', render tag values rest, rfl, by decide, by decide⟩

theorem exists_of_startsLine (line : startsLine pieces = true) :
    ∃ back, render tag values pieces = lineFeed :: back := by
  match pieces, line with
  | .code text :: rest, line =>
      cases characters : text.characters with
      | nil => simp [startsLine, characters] at line
      | cons first others =>
          simp [startsLine, characters] at line
          exact ⟨others ++ render tag values rest,
            by simp [render, Piece.rendered, characters, line]⟩

section Pieces

variable {depth : Nat} {word : Word} {tokens : List Token}

theorem reads_literalPiece {value : List Char} (plain : word ≠ .letterE)
    (behind : startsPlain pieces = true)
    (follows : Reads dialect (.code .none depth) (render tag values pieces)
      after tokens) :
    Reads dialect (.code word depth)
      (quoted value ++ render tag values pieces) after
      (.literal value :: tokens) := by
  obtain ⟨character, back, starts, noQuote, _⟩ :
      ∃ character back, render tag values pieces = character :: back ∧
        character ≠ '\'' ∧ character ≠ '"' := exists_of_startsPlain behind
  rw [starts] at follows ⊢
  exact reads_quoted plain noQuote follows

theorem reads_namePiece {value : List Char} (simple : '"' ∉ value)
    (behind : startsPlain pieces = true)
    (follows : Reads dialect (.code .none depth) (render tag values pieces)
      after tokens) :
    Reads dialect (.code word depth)
      ('"' :: value ++ '"' :: render tag values pieces) after
      (.name value :: tokens) := by
  obtain ⟨character, back, starts, _, noQuote⟩ :
      ∃ character back, render tag values pieces = character :: back ∧
        character ≠ '\'' ∧ character ≠ '"' := exists_of_startsPlain behind
  rw [starts] at follows ⊢
  exact reads_name simple noQuote follows

theorem reads_commentPiece {text : List Char} (oneLine : lineFeed ∉ text)
    (behind : startsLine pieces = true)
    (follows : Reads dialect (.code .none depth) (render tag values pieces)
      after tokens) :
    Reads dialect (.code word depth)
      ('-' :: '-' :: text ++ render tag values pieces) after
      (('-' :: '-' :: text).map .comment ++ tokens) := by
  obtain ⟨back, starts⟩ :
      ∃ back, render tag values pieces = lineFeed :: back :=
    exists_of_startsLine behind
  rw [starts] at follows ⊢
  exact reads_comment oneLine follows

theorem reads_commandPiece {text : List Char} (oneLine : lineFeed ∉ text)
    (behind : startsLine pieces = true)
    (follows : Reads .psql (.code .none depth) (render tag values pieces)
      after tokens) :
    Reads .psql (.code word depth) ('\\' :: text ++ render tag values pieces)
      after (.command text :: tokens) := by
  obtain ⟨back, starts⟩ :
      ∃ back, render tag values pieces = lineFeed :: back :=
    exists_of_startsLine behind
  rw [starts] at follows ⊢
  exact reads_command oneLine follows

end Pieces

theorem reads_template (isTag : IsTag tag)
    (fits : ∀ piece ∈ pieces, piece.Fits tag values)
    (reading : through dialect mode pieces = some after) :
    Reads dialect mode (render tag values pieces) after
      (tokensOf values pieces) := by
  induction pieces generalizing mode with
  | nil =>
      rw [through, Option.some_inj] at reading
      rw [reading]
      rfl
  | cons piece rest ih =>
      have fitsHere := fits piece List.mem_cons_self
      have later : ∀ {middle}, through dialect middle rest = some after →
          Reads dialect middle (render tag values rest) after
            (tokensOf values rest) :=
        ih fun other member =>
          fits other (List.mem_cons_of_mem piece member)
      unfold through at reading
      split at reading
      · rename_i nothing
        cases nothing
      · rename_i before _ _ text others same
        cases same
        split at reading
        · rename_i plain
          have here : Reads dialect before text.characters
              (run dialect before text.characters).1 (text.characters.map .code) :=
            Prod.ext rfl plain
          exact here.append (later reading)
        · cases reading
      · rename_i word depth value others same
        cases same
        split at reading
        · rename_i plain
          exact reads_literalPiece plain.1 plain.2 (later reading)
        · cases reading
      · rename_i word depth value others same
        cases same
        split at reading
        · rename_i plain
          have whole : Reads dialect (.code word depth) _ after _ :=
            reads_namePiece fitsHere plain (later reading)
          simpa [render, Piece.rendered, tokensOf, Piece.reading] using whole
        · cases reading
      · rename_i word depth text others same
        cases same
        split at reading
        · rename_i line
          exact reads_commentPiece line.1 line.2 (later reading)
        · cases reading
      · rename_i word depth text others same
        cases same
        split at reading
        · rename_i line
          obtain ⟨rfl, oneLine, line⟩ := line
          exact reads_commandPiece oneLine line (later reading)
        · cases reading
      · rename_i depth body others same
        cases same
        have here : Reads dialect (.code .none depth)
            (delimiterOf tag ++ (values body ++ delimiterOf tag))
            (.code .none depth) [.dollar (values body)] :=
          reads_dollar isTag fitsHere
        exact here.append (later reading)
      · rename_i word others same
        cases same
        split at reading
        · rename_i isPsql
          subst isPsql
          have here : Reads .psql (.code word 0) [';'] (.code .none 0)
              [.terminator] := by
            rfl
          exact here.append (later reading)
        · cases reading
      · cases reading

/-! ## Delimiters in a template -/

/-- The delimiter does not arise in what a piece is filled in to. -/
def Piece.Free (tag : List Char) (values : ν → List Char) : Piece ν → Prop
  | .code text => '$' ∉ text.characters
  | .literal value => ¬ delimiterOf tag <:+: quoted (values value)
  | .name value => '$' ∉ values value
  | .comment text => '$' ∉ text.characters
  | .command text => '$' ∉ text.characters
  | .dollar _ => False
  | .terminator => True

theorem infix_of_append {first : Char} {rest : List Char}
    (absent : first ∉ front) (within : first :: rest <:+: front ++ back) :
    first :: rest <:+: back := by
  induction front with
  | nil => exact within
  | cons head tail ih =>
      rw [List.mem_cons, not_or] at absent
      rw [List.cons_append, List.infix_cons_iff] at within
      rcases within with starts | later
      · exact absurd (List.cons_prefix_cons.mp starts).1 absent.1
      · exact ih absent.2 later

theorem infix_or_infix {separator : Char} {item : List Char}
    (absent : separator ∉ item)
    (within : item <:+: front ++ separator :: back) :
    item <:+: front ∨ item <:+: back := by
  obtain ⟨before, behind, parts⟩ := within
  rcases List.append_eq_append_iff.mp parts with
    ⟨middle, isFront, _⟩ | ⟨middle, isFront, isBack⟩
  · exact .inl ⟨before, middle, isFront.symm⟩
  · cases middle with
    | nil =>
        rw [List.append_nil] at isFront
        exact .inl ⟨before, [], by rw [List.append_nil, isFront]⟩
    | cons head rest =>
        obtain ⟨isSeparator, isRest⟩ := List.cons.inj isBack
        rw [← isSeparator] at isFront
        rcases List.append_eq_append_iff.mp isFront with
          ⟨between, _, isItem⟩ | ⟨between, _, isItem⟩
        · refine absurd ?_ absent
          rw [isItem]
          simp
        · cases between with
          | nil =>
              refine absurd ?_ absent
              rw [← List.nil_append item, ← isItem]
              exact List.mem_cons_self
          | cons head others =>
              obtain ⟨_, isOthers⟩ := List.cons.inj isItem
              refine .inr ⟨others, behind, ?_⟩
              rw [isRest, isOthers]
              rfl

theorem quote_not_mem_delimiterOf (isTag : IsTag tag) :
    '\'' ∉ delimiterOf tag := by
  have noWord : continuesWord '\'' = false := by decide
  have inTag : '\'' ∉ tag := by
    intro member
    cases tag with
    | nil => cases member
    | cons first rest =>
        rcases List.mem_cons.mp member with same | behind
        · rw [IsTag, ← same] at isTag
          exact absurd isTag.1 (by decide)
        · rw [isTag.2 _ behind] at noWord
          cases noWord
  simp [delimiterOf, inTag]

theorem not_infix_render (isTag : IsTag tag)
    (free : ∀ piece ∈ pieces, piece.Free tag values) :
    ¬ delimiterOf tag <:+:
      render tag values pieces ++ (delimiterOf tag).dropLast := by
  induction pieces with
  | nil =>
      intro within
      have lengths := within.length_le
      rw [render, List.flatMap_nil, List.nil_append,
        List.length_dropLast, delimiterOf, List.length_append,
        List.length_singleton] at lengths
      omega
  | cons piece rest ih =>
      have later := ih fun other member =>
        free other (List.mem_cons_of_mem piece member)
      have here := free piece List.mem_cons_self
      intro within
      rw [render, List.flatMap_cons, ← render, List.append_assoc] at within
      have without : ∀ {text}, '$' ∉ text →
          delimiterOf tag <:+: text ++ (render tag values rest ++
            (delimiterOf tag).dropLast) → False := by
        intro text absent inside
        exact later (infix_of_append absent inside)
      cases piece with
      | code text => exact without here within
      | literal value =>
          rw [Piece.rendered, quoted, List.append_assoc] at within
          rcases infix_or_infix (quote_not_mem_delimiterOf isTag) within with
            inLiteral | behind
          · refine here (inLiteral.trans ?_)
            rw [quoted]
            exact (List.prefix_append _ _).isInfix
          · exact later behind
      | name value =>
          have absent : '$' ∉ values value := here
          refine without ?_ within
          simpa [Piece.rendered] using absent
      | comment text =>
          have absent : '$' ∉ text.characters := here
          refine without ?_ within
          simpa [Piece.rendered] using absent
      | command text =>
          have absent : '$' ∉ text.characters := here
          refine without ?_ within
          simpa [Piece.rendered] using absent
      | dollar body => exact here
      | terminator =>
          have absent : '$' ∉ [';'] := by decide
          exact without absent within

end Filled

end SqlText
