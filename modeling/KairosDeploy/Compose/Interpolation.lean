import KairosDeploy.Compose.BaseCompose
import KairosDeploy.Compose.PaperCompose
import KairosDeploy.Library.Fields
import KairosDeploy.Library.Refusal
import KairosDeploy.Library.TextBytes
import KairosDeploy.Soak.Health

/-!
# Interpolation files

`parse_dotenv` reads the file that Compose interpolates from, and the two
validators look at the names and values that it found.  Compose reads the same
text with a grammar of its own: one assignment on every line that a line feed
ends, with an optional `export` before the name.

The two readings differ in two ways.  The validator takes `export NAME` for a
name, and it also ends lines at separators that are no line feeds.  The first
line of every line of Compose is read alike by both, so that they agree on all
names that stand without `export`, as long as nothing stands behind an odd
separator.
-/

namespace KairosDeploy.Compose.Interpolation

open KairosDeploy.Compose.BaseCompose (forbiddenSecretEnv)
open KairosDeploy.Compose.PaperCompose (isPaperAccount)
open KairosDeploy.Library.Fields
open KairosDeploy.Library.HexDigest (isSha256)
open KairosDeploy.Library.PyObject
open KairosDeploy.Library.Refusal (bind_eq_ok_iff)
open KairosDeploy.Library.TextBytes (toList_append_of)
open KairosDeploy.Soak.Health

/-- The variables that a file sets, in the order of its lines. -/
abbrev Environment : Type := List (String × String)

/-! ## The validator's reading -/

/-- The newlines of `read_text`. -/
def universalNewlines : List Char → List Char
  | [] => []
  | '\r' :: '\n' :: rest => '\n' :: universalNewlines rest
  | '\r' :: rest => '\n' :: universalNewlines rest
  | character :: rest => character :: universalNewlines rest

/-- A quotation mark, or an apostrophe. -/
def isQuote (character : Char) : Bool :=
  character = '"' || character.toNat = 39

/-- `text.strip` of quotes. -/
def stripQuotes (text : List Char) : List Char :=
  ((text.dropWhile isQuote).reverse.dropWhile isQuote).reverse

/-- `value.strip()`, without its quotes. -/
def plainValue (value : List Char) : String :=
  String.ofList (stripQuotes (strip value))

/-- A line that both readings ignore. -/
def isIgnored (line : List Char) : Bool :=
  line = [] || line.head? = some '#'

/-- What a line sets, if anything; absent where it is refused. -/
def readLine (line : List Char) : Option (Option (String × String)) :=
  if isIgnored (strip line) then
    some none
  else
    match partition '=' (strip line) with
    | (_, none) => none
    | (key, some value) =>
        if strip key = [] then
          none
        else
          some (some (String.ofList (strip key), plainValue value))

/-- The loop over the lines, which counts them. -/
def readLines (path : String) :
    Nat → List (List Char) → Except String Environment
  | _, [] => .ok []
  | number, line :: rest =>
      match readLine line with
      | none =>
          .error (path ++ ":" ++ toString number ++ ": expected KEY=VALUE")
      | some none => readLines path (number + 1) rest
      | some (some entry) => do
          let others ← readLines path (number + 1) rest
          return entry :: others

/-- `parse_dotenv`. -/
def parseDotenv (path : String) (text : List Char) :
    Except String Environment :=
  readLines path 1 (splitLines (universalNewlines text))

/-- `environment.get(name)`, empty where it is missing. -/
def valueOf (environment : Environment) (name : String) : String :=
  (lastOf environment name).getD ""

/-- `name in environment`. -/
def isSet (environment : Environment) (name : String) : Bool :=
  (environment.map Prod.fst).contains name

/-- `required` of `validate_environment`, sorted. -/
def requiredEnv : List String :=
  ["GRAFANA_ADMIN_USER", "KAIROS_PROCESSING_SCOPE_SHA256",
    "KAIROS_SECRETS_DIR", "POSTGRES_DB", "POSTGRES_USER"]

/-- `SYNTHETIC_PROCESSING_SCOPE_SHA256`. -/
def syntheticProcessingScope : String :=
  String.ofList (List.replicate 64 '0')

/-- The message about the processing scope. -/
def processingScopeErrors (scope : String) : List String :=
  if scope ≠ "" ∧ isSha256 scope = false then
    ["KAIROS_PROCESSING_SCOPE_SHA256 must be a lowercase SHA-256"]
  else if scope = syntheticProcessingScope then
    ["KAIROS_PROCESSING_SCOPE_SHA256 synthetic CI fixture is not " ++
      "deployment authority"]
  else
    []

/-- `validate_environment`. -/
def validateEnvironment (environment : Environment) : List String :=
  requiredEnv.flatMap (fun name =>
      errorIf (valueOf environment name = "") (name ++ " must be set")) ++
    processingScopeErrors
      (valueOf environment "KAIROS_PROCESSING_SCOPE_SHA256") ++
    forbiddenSecretEnv.flatMap (fun name =>
      errorIf (isSet environment name)
        (name ++ " must not be stored in the Compose interpolation file")) ++
    errorIf (isSet environment "KAIROS_DRY_RUN")
      "KAIROS_DRY_RUN is retired and must be removed"

/-- `PAPER_INTERPOLATION_KEYS`. -/
def paperInterpolationKeys : List String :=
  ["KAIROS_PAPER_SECRETS_DIR", "KAIROS_PAPER_ACCOUNT_ID",
    "KAIROS_EVEDEX_DEV_EXPECTED_ACCOUNT_ID", "POSTGRES_USER", "POSTGRES_DB",
    "GRAFANA_ADMIN_USER", "KAIROS_PAPER_METRICS_PORT",
    "KAIROS_PAPER_PROMETHEUS_PORT", "KAIROS_PAPER_GRAFANA_PORT"]

/-- `required` of `validate_paper_environment`, sorted. -/
def requiredPaperEnv : List String :=
  ["GRAFANA_ADMIN_USER", "KAIROS_EVEDEX_DEV_EXPECTED_ACCOUNT_ID",
    "KAIROS_PAPER_ACCOUNT_ID", "KAIROS_PAPER_SECRETS_DIR", "POSTGRES_DB",
    "POSTGRES_USER"]

/-- `forbidden_names`, sorted. -/
def forbiddenPaperNames : List String :=
  ["GRAFANA_ADMIN_PASSWORD", "KAIROS_CCXT_API_KEY", "KAIROS_CCXT_SECRET",
    "KAIROS_DEEPSEEK_API_KEY", "KAIROS_DRY_RUN", "KAIROS_EVEDEX_DEV_API_KEY",
    "KAIROS_EVEDEX_DEV_PRIVATE_KEY", "KAIROS_EVEDEX_JWT",
    "KAIROS_EVEDEX_PRIVATE_KEY", "KAIROS_OPENAI_API_KEY",
    "KAIROS_X_BEARER_TOKEN", "POSTGRES_PASSWORD", "REDIS_PASSWORD"]

/-- `set(environment) - PAPER_INTERPOLATION_KEYS`, sorted. -/
def unexpectedKeys (environment : Environment) : List String :=
  (((environment.map Prod.fst).dedup).filter fun key =>
    !paperInterpolationKeys.contains key).insertionSort (· ≤ ·)

/-- `validate_paper_environment`. -/
def validatePaperEnvironment
    (environment : Environment) (allowExampleValues : Bool) : List String :=
  errorIf (unexpectedKeys environment ≠ [])
      ("PAPER interpolation keys must match the reviewed allow-list; " ++
        "unexpected: " ++
        String.intercalate ", " (unexpectedKeys environment)) ++
    requiredPaperEnv.flatMap (fun name =>
      errorIf (valueOf environment name = "")
        (name ++ " must be set for PAPER")) ++
    forbiddenPaperNames.flatMap (fun name =>
      errorIf (isSet environment name)
        (name ++ " must not be stored in the PAPER interpolation file")) ++
    errorIf
      (isPaperAccount (valueOf environment "KAIROS_PAPER_ACCOUNT_ID") = false)
      ("KAIROS_PAPER_ACCOUNT_ID must use the dedicated kairos-paper-dev-* " ++
        "namespace") ++
    errorIf
      (valueOf environment "POSTGRES_USER" ≠ "kairos" ||
        valueOf environment "POSTGRES_DB" ≠ "kairos")
      ("PAPER PostgreSQL identity must match the provisioned " ++
        "kairos/kairos DSN") ++
    errorIf
      (!allowExampleValues &&
        valueOf environment "KAIROS_EVEDEX_DEV_EXPECTED_ACCOUNT_ID" =
          "replace-with-dedicated-evedex-dev-account-id")
      ("replace the EVEDEX DEV account-id sentinel before PAPER " ++
        "preflight")

/-! ## The reading of Compose -/

/-- `export `. -/
def exportPart : List Char :=
  ['e', 'x', 'p', 'o', 'r', 't', ' ']

/-- The name, without an `export` before it. -/
def composeName (key : List Char) : String :=
  if exportPart.isPrefixOf key then
    String.ofList (strip (key.drop exportPart.length))
  else
    String.ofList key

/-- The name and the value that a line assigns. -/
def composeAssignment (line : List Char) : Option (String × String) :=
  if isIgnored (strip line) then
    none
  else
    match partition '=' (strip line) with
    | (_, none) => none
    | (key, some value) => some (composeName (strip key), plainValue value)

/-- The lines of a text. -/
def composeLines (text : List Char) : List (List Char) :=
  text.splitOn '\n'

/-- A line with an `export` before its name. -/
def isExport (line : List Char) : Bool :=
  exportPart.isPrefixOf (strip (partition '=' (strip line)).1)

/-- The last line that assigns a name. -/
def lastLine (text : List Char) (name : String) : Option (List Char) :=
  (composeLines text).reverse.find? fun line =>
    (composeAssignment line).any fun assignment => assignment.1 = name

/-- No line assigns a forbidden name. -/
def NoneAssigned (forbidden : List String) (text : List Char) : Prop :=
  ∀ line ∈ composeLines text, ∀ assignment ∈ composeAssignment line,
    assignment.1 ∉ forbidden

/-- The last assignment of every required name has a value. -/
def AllAssigned (required : List String) (text : List Char) : Prop :=
  ∀ name ∈ required, ∃ line value,
    lastLine text name = some line ∧
      composeAssignment line = some (name, value) ∧ value ≠ ""

/-- No `export` line assigns a forbidden name. -/
def NoneExported (forbidden : List String) (text : List Char) : Prop :=
  ∀ line ∈ composeLines text, isExport line = true →
    ∀ assignment ∈ composeAssignment line, assignment.1 ∉ forbidden

/-- No required name is assigned last by an empty `export` line. -/
def NoneEmptied (required : List String) (text : List Char) : Prop :=
  ∀ name ∈ required, ∀ line, lastLine text name = some line →
    isExport line = true → composeAssignment line ≠ some (name, "")

/-- The stripped lines that the validator finds, without the blank ones. -/
def pieces (text : List Char) : List (List Char) :=
  ((splitLines text).map strip).filter (· ≠ [])

/-- What a piece sets. -/
def entryOf (piece : List Char) : Option (String × String) :=
  (readLine piece).join

/-- The entries behind odd separators in a line of Compose. -/
def hiddenEntries (line : List Char) : Environment :=
  (pieces line).tail.filterMap entryOf

/-- The validator reads no required name behind an odd separator. -/
def NoneHidden (required : List String) (text : List Char) : Prop :=
  ∀ line ∈ composeLines text, ∀ entry ∈ hiddenEntries line,
    entry.1 ∉ required

/-! ## Lines and pieces -/

section Lines

/-- Universal newlines do not change the lines. -/
theorem splitLinesFrom_universalNewlines (line text : List Char) :
    splitLinesFrom line (universalNewlines text) =
      splitLinesFrom line text := by
  induction text using universalNewlines.induct generalizing line with
  | case1 => rfl
  | case2 rest induction =>
      rw [universalNewlines,
        splitLinesFrom_break isLineBreak_of_newline _ _ (by simp), induction]
      rfl
  | case3 rest alone induction =>
      have apart : rest.head? ≠ some '\n' := by
        intro next
        rcases List.head?_eq_some_iff.1 next with ⟨tail, rfl⟩
        exact alone tail rfl
      rw [universalNewlines,
        splitLinesFrom_break isLineBreak_of_newline _ _ (by simp), induction,
        splitLinesFrom_break isLineBreak_of_return _ _ fun _ => apart]
      exact alone
  | case4 character rest _ other induction =>
      rw [universalNewlines]
      · cases ends : isLineBreak character with
        | true =>
            rw [splitLinesFrom_break ends _ _ fun same => absurd same other,
              splitLinesFrom_break ends _ _ fun same => absurd same other,
              induction]
        | false =>
            rw [splitLinesFrom_inside ends, splitLinesFrom_inside ends,
              induction]
      · exact fun tail same _ => other same
      · exact other

/-- The pieces of a text, with a line that has begun. -/
def piecesFrom (line text : List Char) : List (List Char) :=
  ((splitLinesFrom line text).map strip).filter (· ≠ [])

/-- The piece of a line, if it is not blank. -/
def pieceOf (line : List Char) : List (List Char) :=
  if strip line = [] then [] else [strip line]

theorem filter_cons_pieces (line : List Char) (others : List (List Char)) :
    ((line :: others).map strip).filter (· ≠ []) =
      pieceOf line ++ (others.map strip).filter (· ≠ []) := by
  unfold pieceOf
  rw [List.map_cons]
  by_cases blank : strip line = []
  · rw [List.filter_cons_of_neg (by simp [blank]), if_pos blank,
      List.nil_append]
  · rw [List.filter_cons_of_pos (by simpa using blank), if_neg blank,
      List.singleton_append]

theorem piecesFrom_nil (line : List Char) :
    piecesFrom line [] = pieceOf line.reverse := by
  unfold piecesFrom splitLinesFrom pieceOf
  by_cases begun : line = []
  · subst begun
    rfl
  · rw [if_neg begun]
    by_cases blank : strip line.reverse = [] <;> simp [blank]

theorem piecesFrom_return (line rest : List Char) :
    piecesFrom line ('\r' :: '\n' :: rest) =
      pieceOf line.reverse ++ pieces rest := by
  rw [piecesFrom, splitLinesFrom, filter_cons_pieces]
  rfl

theorem piecesFrom_break
    {character : Char} (ends : isLineBreak character = true)
    (line rest : List Char)
    (apart : character = '\r' → rest.head? ≠ some '\n') :
    piecesFrom line (character :: rest) =
      pieceOf line.reverse ++ pieces rest := by
  rw [piecesFrom, splitLinesFrom_break ends _ _ apart, filter_cons_pieces]
  rfl

theorem piecesFrom_inside
    {character : Char} (inside : isLineBreak character = false)
    (line rest : List Char) :
    piecesFrom line (character :: rest) =
      piecesFrom (character :: line) rest := by
  rw [piecesFrom, splitLinesFrom_inside inside]
  rfl

/-- A line feed separates the pieces before it from those after it. -/
theorem piecesFrom_append (line before after : List Char) :
    piecesFrom line (before ++ '\n' :: after) =
      piecesFrom line before ++ pieces after := by
  induction line, before using splitLinesFrom.induct with
  | case1 =>
      rw [List.nil_append, piecesFrom_nil,
        piecesFrom_break isLineBreak_of_newline _ _ (by simp)]
  | case2 line _ =>
      rw [List.nil_append, piecesFrom_nil,
        piecesFrom_break isLineBreak_of_newline _ _ (by simp)]
  | case3 line rest induction =>
      rw [List.cons_append, List.cons_append, piecesFrom_return,
        piecesFrom_return, List.append_assoc]
      exact congrArg _ induction
  | case4 line character rest apart ends induction =>
      have alone : character = '\r' → rest.head? ≠ some '\n' := by
        rintro rfl next
        rcases List.head?_eq_some_iff.1 next with ⟨tail, rfl⟩
        exact apart tail rfl rfl
      rw [piecesFrom_break ends _ _ alone, List.cons_append]
      cases rest with
      | nil =>
          -- A carriage return before the line feed ends the line with it.
          by_cases returns : character = '\r'
          · subst returns
            rw [List.nil_append, piecesFrom_return]
            exact congrArg (· ++ pieces after) (List.append_nil _).symm
          · rw [piecesFrom_break ends _ _ fun same => absurd same returns,
              List.append_assoc]
            exact congrArg _ induction
      | cons head tail =>
          rw [piecesFrom_break ends _ _ (by simpa using alone),
            List.append_assoc]
          exact congrArg _ induction
  | case5 line character rest _ inside induction =>
      have within : isLineBreak character = false := by simpa using inside
      rw [List.cons_append, piecesFrom_inside within,
        piecesFrom_inside within]
      exact induction

theorem pieces_append (before after : List Char) :
    pieces (before ++ '\n' :: after) = pieces before ++ pieces after :=
  piecesFrom_append [] before after

/-- The pieces of a text are the pieces of its lines. -/
theorem pieces_eq_flatMap (text : List Char) :
    pieces text = (composeLines text).flatMap pieces := by
  have joined : ∀ lines : List (List Char), lines ≠ [] →
      pieces (['\n'].intercalate lines) = lines.flatMap pieces := by
    intro lines nonempty
    induction lines with
    | nil => exact absurd rfl nonempty
    | cons first rest induction =>
        cases rest with
        | nil => simp [List.intercalate]
        | cons second others =>
            rw [List.intercalate_cons_cons, List.append_assoc,
              List.singleton_append, pieces_append,
              induction (List.cons_ne_nil _ _)]
            rfl
  have split := joined (composeLines text) (List.splitOn_ne_nil _ _)
  rwa [composeLines, List.intercalate_splitOn] at split

theorem strip_eq_trim (text : List Char) : strip text = trim isSpace text :=
  rfl

/-- The first line of a text is what it has before a line break. -/
theorem exists_piecesFrom (text : List Char) :
    ∃ more, ∀ line,
      piecesFrom line text =
        pieceOf
            (line.reverse ++
              text.takeWhile fun character => !isLineBreak character) ++
          more := by
  induction text with
  | nil =>
      refine ⟨[], fun line => ?_⟩
      rw [piecesFrom_nil, List.takeWhile_nil, List.append_nil,
        List.append_nil]
  | cons character rest induction =>
      cases ends : isLineBreak character with
      | false =>
          rcases induction with ⟨more, split⟩
          refine ⟨more, fun line => ?_⟩
          rw [piecesFrom_inside ends, split,
            List.takeWhile_cons_of_pos (by simp [ends]), List.reverse_cons,
            List.append_assoc, List.singleton_append]
      | true =>
          have none :
              (character :: rest).takeWhile
                  (fun character => !isLineBreak character) =
                [] :=
            List.takeWhile_cons_of_neg (by simp [ends])
          by_cases returns : character = '\r' ∧ rest.head? = some '\n'
          · rcases returns with ⟨rfl, next⟩
            rcases List.head?_eq_some_iff.1 next with ⟨tail, rfl⟩
            refine ⟨pieces tail, fun line => ?_⟩
            rw [piecesFrom_return, none, List.append_nil]
          · refine ⟨pieces rest, fun line => ?_⟩
            rw [piecesFrom_break ends _ _ fun same next =>
                returns ⟨same, next⟩,
              none, List.append_nil]

theorem pieceOf_append_left
    {front : List Char} (text : List Char)
    (blank : ∀ character ∈ front, isSpace character = true) :
    pieceOf (front ++ text) = pieceOf text := by
  unfold pieceOf
  rw [strip_eq_trim, trim_append_left _ blank]
  rfl

/-- White space before a text adds no piece. -/
theorem pieces_cons_space
    {character : Char} (blank : isSpace character = true)
    (rest : List Char) : pieces (character :: rest) = pieces rest := by
  have nothing : pieceOf [] = [] := rfl
  change piecesFrom [] (character :: rest) = piecesFrom [] rest
  cases ends : isLineBreak character with
  | false =>
      rcases exists_piecesFrom rest with ⟨more, split⟩
      rw [piecesFrom_inside ends, split, split, List.reverse_singleton,
        pieceOf_append_left _ (by simpa using blank)]
      rfl
  | true =>
      by_cases returns : character = '\r' ∧ rest.head? = some '\n'
      · rcases returns with ⟨rfl, next⟩
        rcases List.head?_eq_some_iff.1 next with ⟨tail, rfl⟩
        rw [piecesFrom_return,
          piecesFrom_break isLineBreak_of_newline _ _ (by simp)]
      · rw [piecesFrom_break ends _ _ fun same next => returns ⟨same, next⟩]
        rfl

theorem pieces_append_left
    {front : List Char} (text : List Char)
    (blank : ∀ character ∈ front, isSpace character = true) :
    pieces (front ++ text) = pieces text := by
  induction front with
  | nil => rfl
  | cons character rest induction =>
      rw [List.forall_mem_cons] at blank
      rw [List.cons_append, pieces_cons_space blank.1, induction blank.2]

/-- A blank line has no pieces. -/
theorem pieces_of_blank {line : List Char} (blank : strip line = []) :
    pieces line = [] := by
  rw [strip_eq_trim, trim_eq_nil_iff] at blank
  rw [← List.append_nil line, pieces_append_left _ blank]
  rfl

/-- The first piece of a line is its beginning, up to a line break. -/
theorem pieces_of_nonblank {line : List Char} (nonblank : strip line ≠ []) :
    ∃ first rest more,
      pieces line = first :: more ∧ first ≠ [] ∧
        strip first = first ∧ strip line = first ++ rest := by
  rcases exists_trim isSpace line with ⟨front, back, shape, before, after⟩
  rw [← strip_eq_trim] at shape
  rcases List.exists_cons_of_ne_nil nonblank with ⟨head, tail, stripped⟩
  have inside : isSpace head = false := by
    cases blank : isSpace head with
    | false => rfl
    | true => exact absurd stripped (trim_ne_cons blank)
  have begins : isLineBreak head = false := by
    cases ends : isLineBreak head with
    | false => rfl
    | true =>
        rw [isSpace_of_isLineBreak ends] at inside
        cases inside
  let unbroken := fun character => !isLineBreak character
  have sameStart :
      strip ((strip line ++ back).takeWhile unbroken) =
        strip ((strip line).takeWhile unbroken) := by
    rw [List.takeWhile_append]
    split_ifs with whole
    · have all : (strip line).takeWhile unbroken = strip line :=
        (List.takeWhile_prefix _).eq_of_length whole
      rw [all, strip_eq_trim, trim_append_right]
      · rfl
      · exact fun character member =>
          after character ((List.takeWhile_sublist _).subset member)
    · rfl
  have nonempty : strip ((strip line).takeWhile unbroken) ≠ [] := by
    rw [stripped, List.takeWhile_cons_of_pos (by simp [unbroken, begins])]
    intro empty
    have blank :=
      (trim_eq_nil_iff _).1 empty head List.mem_cons_self
    rw [inside] at blank
    cases blank
  rcases exists_piecesFrom (strip line ++ back) with ⟨more, split⟩
  have found :
      pieces line = strip ((strip line).takeWhile unbroken) :: more := by
    have samePieces : pieces line = pieces (strip line ++ back) := by
      conv_lhs => rw [shape, List.append_assoc]
      exact pieces_append_left _ before
    refine samePieces.trans ((split []).trans ?_)
    rw [List.reverse_nil, List.nil_append, pieceOf, sameStart,
      if_neg nonempty, List.singleton_append]
  have start :
      strip ((strip line).takeWhile unbroken) <+: strip line := by
    have whole : trim isSpace (strip line) = strip line := trim_trim line
    have grown :=
      @trim_prefix_trim_append _ isSpace ((strip line).takeWhile unbroken)
        ((strip line).dropWhile unbroken)
    rw [List.takeWhile_append_dropWhile, whole] at grown
    exact grown
  rcases start with ⟨rest, joined⟩
  exact ⟨_, rest, more, found, nonempty, trim_trim _, joined.symm⟩

end Lines

/-! ## Both readings of a line -/

section Readings

/-- What follows a text with a separator only adds to what is after it. -/
theorem partition_append
    {separator : Char} {text key value : List Char}
    (split : partition separator text = (key, some value))
    (rest : List Char) :
    partition separator (text ++ rest) = (key, some (value ++ rest)) := by
  unfold partition at *
  cases found : text.dropWhile fun character => character ≠ separator with
  | nil =>
      rw [found] at split
      cases split
  | cons first after =>
      rw [found] at split
      cases split
      have shorter :
          (text.takeWhile fun character => character ≠ separator).length ≠
            text.length := by
        have parts :=
          congrArg List.length
            (List.takeWhile_append_dropWhile
              (p := fun character => character ≠ separator) (l := text))
        rw [found, List.length_append, List.length_cons] at parts
        omega
      rw [List.dropWhile_append, List.takeWhile_append, if_neg shorter,
        found]
      rfl

/-- What the validator reads from the first piece of a line. -/
def firstEntry (line : List Char) : Option (String × String) :=
  (pieces line).head?.bind entryOf

/-- A value that begins with another one is only empty if that one is. -/
theorem plainValue_append
    {value rest : List Char} (empty : plainValue (value ++ rest) = "") :
    plainValue value = "" := by
  have isEmpty : ∀ text, plainValue text = "" ↔
      ∀ character ∈ strip text, isQuote character = true := by
    intro text
    rw [← trim_eq_nil_iff]
    exact String.ofList_eq_empty_iff
  rw [isEmpty] at *
  intro character member
  exact
    empty character
      ((@trim_prefix_trim_append _ isSpace value rest).subset member)

/-- Both readings of a line, where the validator refuses none of its pieces. -/
inductive ReadAlike (line : List Char) : Prop
  | nothing
      (validator : firstEntry line = none)
      (compose : composeAssignment line = none)
  | assigned (key value rest : List Char)
      (validator :
        firstEntry line = some (String.ofList key, plainValue value))
      (compose :
        composeAssignment line =
          some (composeName key, plainValue (value ++ rest)))
      (exported : isExport line = exportPart.isPrefixOf key)

theorem readAlike
    {line : List Char}
    (accepted : ∀ piece ∈ pieces line, readLine piece ≠ none) :
    ReadAlike line := by
  by_cases blank : strip line = []
  · refine .nothing ?_ ?_
    · rw [firstEntry, pieces_of_blank blank]
      rfl
    · rw [composeAssignment, blank]
      rfl
  · rcases pieces_of_nonblank blank with
      ⟨first, rest, more, found, nonempty, stripped, whole⟩
    have read : firstEntry line = (readLine first).join := by
      rw [firstEntry, found]
      rfl
    have notRefused : readLine first ≠ none :=
      accepted first (found ▸ List.mem_cons_self)
    have sameStart : isIgnored (strip line) = isIgnored first := by
      rcases List.exists_cons_of_ne_nil nonempty with ⟨head, tail, rfl⟩
      rw [whole]
      rfl
    unfold readLine at read notRefused
    rw [stripped] at read notRefused
    cases ignored : isIgnored first with
    | true =>
        rw [ignored] at read
        refine .nothing read ?_
        rw [composeAssignment, sameStart, ignored]
        rfl
    | false =>
        rw [ignored, if_neg Bool.false_ne_true] at read notRefused
        rcases split : partition '=' first with ⟨key, value⟩
        rw [split] at read notRefused
        cases value with
        | none => exact absurd rfl notRefused
        | some value =>
            by_cases unnamed : strip key = []
            · exact absurd (if_pos unnamed) notRefused
            · have grown := partition_append split rest
              refine .assigned (strip key) value rest ?_ ?_ ?_
              · rw [read]
                simp only [if_neg unnamed]
                rfl
              · rw [composeAssignment, sameStart, ignored,
                  if_neg Bool.false_ne_true, whole, grown]
              · rw [isExport, whole, grown]

end Readings

/-! ## What an accepted text assigns -/

section Accepted

variable {path : String} {text : List Char} {environment : Environment}

theorem readLines_eq_ok
    {number : Nat} {lines : List (List Char)}
    (read : readLines path number lines = .ok environment) :
    (∀ line ∈ lines, readLine line ≠ none) ∧
      environment = lines.filterMap entryOf := by
  induction lines generalizing number environment with
  | nil =>
      cases read
      exact ⟨fun _ member => absurd member List.not_mem_nil, rfl⟩
  | cons line rest induction =>
      unfold readLines at read
      rw [List.forall_mem_cons]
      split at read
      case h_1 => cases read
      case h_2 ignored =>
        rcases induction read with ⟨each, entries⟩
        refine ⟨⟨by simp [ignored], each⟩, ?_⟩
        rw [List.filterMap_cons_none (by simp [entryOf, ignored]), entries]
      case h_3 entry found =>
        rw [bind_eq_ok_iff] at read
        rcases read with ⟨others, following, same⟩
        cases same
        rcases induction following with ⟨each, entries⟩
        refine ⟨⟨by simp [found], each⟩, ?_⟩
        rw [List.filterMap_cons_some (b := entry) (by simp [entryOf, found]),
          entries]

theorem readLine_strip (line : List Char) :
    readLine (strip line) = readLine line := by
  have twice : strip (strip line) = strip line := trim_trim line
  unfold readLine
  rw [twice]

theorem entryOf_of_blank {line : List Char} (blank : strip line = []) :
    entryOf line = none := by
  rw [entryOf, readLine, blank]
  rfl

/-- The pieces carry all that the validator reads. -/
theorem filterMap_pieces (lines : List (List Char)) :
    ((lines.map strip).filter (· ≠ [])).filterMap entryOf =
      lines.filterMap entryOf := by
  induction lines with
  | nil => rfl
  | cons line rest induction =>
      rw [filter_cons_pieces, List.filterMap_append, induction]
      unfold pieceOf
      split_ifs with blank
      · rw [List.filterMap_cons_none (entryOf_of_blank blank)]
        rfl
      · have same : entryOf (strip line) = entryOf line := by
          rw [entryOf, readLine_strip]
          rfl
        cases found : entryOf line with
        | none =>
            rw [List.filterMap_cons_none (same.trans found),
              List.filterMap_cons_none found]
            rfl
        | some entry =>
            rw [List.filterMap_cons_some (same.trans found),
              List.filterMap_cons_some found]
            rfl

/-- What parsing establishes, line by line of Compose. -/
theorem parsed_lines
    (parsed : parseDotenv path text = .ok environment) :
    (∀ line ∈ composeLines text, ReadAlike line) ∧
      environment =
        (composeLines text).flatMap fun line =>
          (firstEntry line).toList ++ hiddenEntries line := by
  rw [parseDotenv, splitLines, splitLinesFrom_universalNewlines] at parsed
  rcases readLines_eq_ok parsed with ⟨each, entries⟩
  have refusedNone : ∀ piece ∈ pieces text, readLine piece ≠ none := by
    intro piece member
    rcases List.mem_map.1 (List.mem_of_mem_filter member) with
      ⟨line, lineMember, rfl⟩
    rw [readLine_strip]
    exact each line lineMember
  constructor
  · intro line member
    refine readAlike fun piece pieceMember => refusedNone piece ?_
    rw [pieces_eq_flatMap]
    exact List.mem_flatMap.2 ⟨line, member, pieceMember⟩
  · have gathered : environment = (pieces text).filterMap entryOf := by
      rw [entries]
      exact (filterMap_pieces _).symm
    rw [gathered, pieces_eq_flatMap, List.filterMap_flatMap]
    refine List.flatMap_congr fun line _ => ?_
    unfold firstEntry hiddenEntries
    cases pieces line with
    | nil => rfl
    | cons first more =>
        cases found : entryOf first with
        | none =>
            rw [List.filterMap_cons_none found]
            simp [found]
        | some entry =>
            rw [List.filterMap_cons_some found]
            simp [found]

/-- A name without `export` is the name that Compose sees. -/
theorem composeName_of_plain
    {key : List Char} (plain : exportPart.isPrefixOf key = false) :
    composeName key = String.ofList key := by
  rw [composeName, plain, if_neg Bool.false_ne_true]

theorem mem_environment
    {entries : Environment} {line : List Char} {entry : String × String}
    (gathered :
      entries =
        (composeLines text).flatMap fun line =>
          (firstEntry line).toList ++ hiddenEntries line)
    (member : line ∈ composeLines text)
    (first : firstEntry line = some entry) : entry ∈ entries := by
  rw [gathered, List.mem_flatMap]
  exact ⟨line, member, List.mem_append_left _ (by simp [first])⟩

/-- Forbidden names that the validator does not see are exported. -/
theorem noneAssigned_iff
    (parsed : parseDotenv path text = .ok environment)
    {forbidden : List String}
    (absent : ∀ name ∈ forbidden, isSet environment name = false) :
    NoneAssigned forbidden text ↔ NoneExported forbidden text := by
  rcases parsed_lines parsed with ⟨alike, gathered⟩
  constructor
  · exact fun none line member _ => none line member
  · intro none line member assignment assigned
    cases exported : isExport line with
    | true => exact none line member exported assignment assigned
    | false =>
        cases alike line member with
        | nothing _ compose =>
            rw [compose] at assigned
            cases assigned
        | assigned key value rest validator compose sameExport =>
            rw [compose, Option.mem_some_iff] at assigned
            subst assigned
            rw [exported] at sameExport
            rw [composeName_of_plain sameExport.symm]
            intro isForbidden
            have found := mem_environment gathered member validator
            have isListed :
                (environment.map Prod.fst).contains (String.ofList key) =
                  true :=
              List.contains_iff_mem.2 (List.mem_map_of_mem found)
            have notSet := absent _ isForbidden
            rw [isSet, isListed] at notSet
            cases notSet

/-- The last entry of a key, when later entries have other keys. -/
theorem lastOf_append_cons
    {before after : Environment} {name value : String}
    (others : ∀ entry ∈ after, entry.1 ≠ name) :
    lastOf (before ++ (name, value) :: after) name = some value := by
  unfold lastOf
  rw [List.lookup_eq_some_iff]
  refine ⟨after.reverse, before.reverse, by simp, fun entry member => ?_⟩
  rw [bne_iff_ne]
  exact (others entry (List.mem_reverse.1 member)).symm

/-- A line assigns a name. -/
def assigns (name : String) (line : List Char) : Bool :=
  (composeAssignment line).any fun assignment => assignment.1 = name

/-- An entry that the validator reads first assigns its name. -/
theorem assigns_of_firstEntry
    {line : List Char} (alike : ReadAlike line) {name value : String}
    (plain : exportPart.isPrefixOf name.toList = false)
    (first : firstEntry line = some (name, value)) :
    assigns name line = true := by
  cases alike with
  | nothing validator _ =>
      rw [validator] at first
      cases first
  | assigned key value rest validator compose _ =>
      rw [validator, Option.some.injEq, Prod.mk.injEq] at first
      rw [← first.1, String.toList_ofList] at plain
      rw [assigns, compose, composeName_of_plain plain, ← first.1]
      simp

/-- The last line for a name, and the lines around it. -/
theorem lastLine_eq_some
    {name : String} {line : List Char}
    (last : lastLine text name = some line) :
    ∃ before after,
      composeLines text = before ++ line :: after ∧
        assigns name line = true ∧
        ∀ later ∈ after, assigns name later = false := by
  rw [lastLine, List.find?_eq_some_iff_append] at last
  rcases last with ⟨assigned, after, before, split, none⟩
  refine ⟨before.reverse, after.reverse, ?_, assigned, ?_⟩
  · rw [← List.reverse_reverse (composeLines text), split]
    simp
  · intro later member
    have notAssigned := none later (List.mem_reverse.1 member)
    simpa [assigns] using notAssigned

/-- A required name that the validator reads is assigned for Compose. -/
theorem exists_assigns
    (parsed : parseDotenv path text = .ok environment)
    {required : List String} (hidden : NoneHidden required text)
    {name value : String} (isRequired : name ∈ required)
    (plain : exportPart.isPrefixOf name.toList = false)
    (read : lastOf environment name = some value) :
    ∃ line ∈ composeLines text, assigns name line = true := by
  rcases parsed_lines parsed with ⟨alike, gathered⟩
  have listed := mem_of_lastOf read
  rw [gathered, List.mem_flatMap] at listed
  rcases listed with ⟨line, member, entry⟩
  rcases List.mem_append.1 entry with first | behind
  · refine ⟨line, member, ?_⟩
    exact
      assigns_of_firstEntry (alike line member) plain (by simpa using first)
  · exact absurd isRequired (hidden line member _ behind)

/-- Where the last line for a name has no `export`, the validator reads it. -/
theorem lastOf_of_lastLine
    (parsed : parseDotenv path text = .ok environment)
    {required : List String} (hidden : NoneHidden required text)
    {name value : String} (isRequired : name ∈ required)
    (plain : exportPart.isPrefixOf name.toList = false)
    {line : List Char} {before after : List (List Char)}
    (split : composeLines text = before ++ line :: after)
    (later : ∀ later ∈ after, assigns name later = false)
    (first : firstEntry line = some (name, value)) :
    lastOf environment name = some value := by
  rcases parsed_lines parsed with ⟨alike, gathered⟩
  have notHidden :
      ∀ other ∈ composeLines text, ∀ entry ∈ hiddenEntries other,
        entry.1 ≠ name :=
    fun other member entry behind same =>
      hidden other member entry behind (same ▸ isRequired)
  have inText : ∀ other ∈ line :: after, other ∈ composeLines text := by
    intro other member
    rw [split]
    exact List.mem_append_right _ member
  rw [gathered, split, List.flatMap_append, List.flatMap_cons, first,
    Option.toList_some, List.append_assoc, List.singleton_append]
  refine lastOf_append_cons fun entry entryMember same => ?_
  rcases List.mem_append.1 entryMember with behind | afterwards
  · exact notHidden line (inText line List.mem_cons_self) entry behind same
  · rcases List.mem_flatMap.1 afterwards with ⟨other, member, listed⟩
    have otherInText := inText other (List.mem_cons_of_mem _ member)
    rcases List.mem_append.1 listed with otherFirst | behind
    · rcases entry with ⟨key, other⟩
      subst same
      have assigned :=
        assigns_of_firstEntry (alike _ otherInText) plain
          (by simpa using otherFirst)
      rw [later _ member] at assigned
      cases assigned
    · exact notHidden other otherInText entry behind same

/-- Required names have a value for Compose unless an `export` empties them. -/
theorem allAssigned_iff
    (parsed : parseDotenv path text = .ok environment)
    {required : List String}
    (plain : ∀ name ∈ required, exportPart.isPrefixOf name.toList = false)
    (set : ∀ name ∈ required, valueOf environment name ≠ "")
    (hidden : NoneHidden required text) :
    AllAssigned required text ↔ NoneEmptied required text := by
  rcases parsed_lines parsed with ⟨alike, _⟩
  constructor
  · intro all name isRequired line last _ emptied
    rcases all name isRequired with ⟨other, value, otherLast, assigned, given⟩
    rw [last, Option.some.injEq] at otherLast
    rw [← otherLast, emptied, Option.some.injEq, Prod.mk.injEq] at assigned
    exact given assigned.2.symm
  · intro none name isRequired
    have namePlain := plain name isRequired
    have hasValue := set name isRequired
    rw [valueOf] at hasValue
    cases read : lastOf environment name with
    | none =>
        rw [read] at hasValue
        exact absurd rfl hasValue
    | some value =>
        rw [read, Option.getD_some] at hasValue
        rcases exists_assigns parsed hidden isRequired namePlain read with
          ⟨some_, inText, assignedSome⟩
        cases last : lastLine text name with
        | none =>
            rw [lastLine, List.find?_eq_none] at last
            exact
              absurd assignedSome (last some_ (List.mem_reverse.2 inText))
        | some line =>
            rcases lastLine_eq_some last with
              ⟨before, after, split, assigned, later⟩
            have member : line ∈ composeLines text := by
              rw [split]
              simp
            cases alike line member with
            | nothing _ compose =>
                rw [assigns, compose] at assigned
                cases assigned
            | assigned key first rest validator compose exported =>
                have named : composeName key = name := by
                  simpa [assigns, compose] using assigned
                rw [named] at compose
                refine ⟨line, _, rfl, compose, fun empty => ?_⟩
                rw [empty] at compose
                cases isExported : isExport line with
                | true =>
                    exact none name isRequired line last isExported compose
                | false =>
                    rw [isExported] at exported
                    rw [composeName_of_plain exported.symm] at named
                    rw [named, plainValue_append empty] at validator
                    have readEmpty :=
                      lastOf_of_lastLine parsed hidden isRequired namePlain
                        split later validator
                    rw [read, Option.some.injEq] at readEmpty
                    exact hasValue readEmpty

/-! ## The validators -/

theorem validateEnvironment_eq_nil
    (clean : validateEnvironment environment = []) :
    (∀ name ∈ requiredEnv, valueOf environment name ≠ "") ∧
      ∀ name ∈ forbiddenSecretEnv, isSet environment name = false := by
  simp only [validateEnvironment, List.append_eq_nil_iff,
    List.flatMap_eq_nil_iff, errorIf_eq_nil_iff, decide_eq_false_iff_not]
    at clean
  exact ⟨clean.1.1.1, clean.1.2⟩

/-- No key is unexpected. -/
theorem expected_of_unexpectedKeys
    (none : unexpectedKeys environment = []) :
    ∀ entry ∈ environment, entry.1 ∈ paperInterpolationKeys := by
  intro entry member
  have sorted :=
    List.perm_insertionSort (· ≤ ·)
      (((environment.map Prod.fst).dedup).filter fun key =>
        !paperInterpolationKeys.contains key)
  rw [unexpectedKeys] at none
  rw [none] at sorted
  have empty := List.filter_eq_nil_iff.1 sorted.nil_eq.symm
  have key : entry.1 ∈ (environment.map Prod.fst).dedup :=
    List.mem_dedup.2 (List.mem_map_of_mem member)
  have known := empty entry.1 key
  rwa [Bool.not_eq_true, Bool.not_eq_false', List.contains_iff_mem] at known

theorem validatePaperEnvironment_eq_nil
    {allowExampleValues : Bool}
    (clean :
      validatePaperEnvironment environment allowExampleValues = []) :
    (∀ entry ∈ environment, entry.1 ∈ paperInterpolationKeys) ∧
      (∀ name ∈ requiredPaperEnv, valueOf environment name ≠ "") ∧
      ∀ name ∈ forbiddenPaperNames, isSet environment name = false := by
  simp only [validatePaperEnvironment, List.append_eq_nil_iff,
    List.flatMap_eq_nil_iff, errorIf_eq_nil_iff, decide_eq_false_iff_not,
    not_not] at clean
  rcases clean with ⟨⟨⟨⟨⟨expected, required⟩, forbidden⟩, _⟩, _⟩, _⟩
  exact ⟨expected_of_unexpectedKeys expected, required, forbidden⟩

theorem requiredEnv_plain :
    ∀ name ∈ requiredEnv, exportPart.isPrefixOf name.toList = false := by
  decide

theorem requiredPaperEnv_plain :
    ∀ name ∈ requiredPaperEnv, exportPart.isPrefixOf name.toList = false := by
  decide

theorem paperInterpolationKeys_plain :
    ∀ key ∈ paperInterpolationKeys,
      exportPart.isPrefixOf key.toList = false := by
  decide

/-- The allow-list leaves no room for an `export`. -/
theorem isExport_of_paper
    (parsed : parseDotenv path text = .ok environment)
    (expected : ∀ entry ∈ environment, entry.1 ∈ paperInterpolationKeys)
    {line : List Char} (member : line ∈ composeLines text)
    {assignment : String × String}
    (assigned : composeAssignment line = some assignment) :
    isExport line = false := by
  rcases parsed_lines parsed with ⟨alike, gathered⟩
  cases alike line member with
  | nothing _ compose =>
      rw [compose] at assigned
      cases assigned
  | assigned key value rest validator _ exported =>
      have listed := expected _ (mem_environment gathered member validator)
      have plain := paperInterpolationKeys_plain _ listed
      rw [String.toList_ofList] at plain
      exact exported.trans plain

/--
An accepted file assigns no forbidden name, and all required names, unless an
`export` line does otherwise or a required name stands behind an odd
separator.  A PAPER file has no `export` lines.
-/
theorem interpolation_agrees_iff
    (parsed : parseDotenv path text = .ok environment) :
    (validateEnvironment environment = [] →
        (NoneAssigned forbiddenSecretEnv text ↔
            NoneExported forbiddenSecretEnv text) ∧
          (NoneHidden requiredEnv text →
            (AllAssigned requiredEnv text ↔ NoneEmptied requiredEnv text))) ∧
      ∀ allowExampleValues,
        validatePaperEnvironment environment allowExampleValues = [] →
          NoneAssigned forbiddenPaperNames text ∧
            (NoneHidden requiredPaperEnv text →
              AllAssigned requiredPaperEnv text) := by
  constructor
  · intro clean
    rcases validateEnvironment_eq_nil clean with ⟨required, forbidden⟩
    exact
      ⟨noneAssigned_iff parsed forbidden,
        allAssigned_iff parsed requiredEnv_plain required⟩
  · intro allowExampleValues clean
    rcases validatePaperEnvironment_eq_nil clean with
      ⟨expected, required, forbidden⟩
    constructor
    · rw [noneAssigned_iff parsed forbidden]
      intro line member exported assignment assigned
      have plain := isExport_of_paper parsed expected member assigned
      rw [exported] at plain
      cases plain
    · intro hidden
      rw [allAssigned_iff parsed requiredPaperEnv_plain required hidden]
      intro name isRequired line last exported emptied
      rcases lastLine_eq_some last with ⟨before, after, split, _⟩
      have member : line ∈ composeLines text := by
        rw [split]
        simp
      have plain := isExport_of_paper parsed expected member emptied
      rw [exported] at plain
      cases plain

end Accepted

/-! ### Files that are accepted -/

section Recorded

/-- The lines of the required names. -/
def requiredText : List Char :=
  ("POSTGRES_USER=kairos\nPOSTGRES_DB=kairos\n" ++
    "GRAFANA_ADMIN_USER=admin\nKAIROS_SECRETS_DIR=/srv/secrets\n" ++
    "KAIROS_PROCESSING_SCOPE_SHA256=" ++
    "1111111111111111111111111111111111111111111111111111111111111111\n"
    ).toList

/-- A line that exports a secret. -/
def exportLine : List Char :=
  "export KAIROS_OPENAI_API_KEY=sk-1".toList

/-- A line that exports a name of neither list. -/
def zoneLine : List Char :=
  "export TZ=UTC".toList

/-- The lines of the required names of PAPER. -/
def paperText : List Char :=
  ("POSTGRES_USER=kairos\nPOSTGRES_DB=kairos\n" ++
    "GRAFANA_ADMIN_USER=admin\nKAIROS_PAPER_SECRETS_DIR=/srv/paper\n" ++
    "KAIROS_PAPER_ACCOUNT_ID=kairos-paper-dev-1\n" ++
    "KAIROS_EVEDEX_DEV_EXPECTED_ACCOUNT_ID=evedex-dev-1\n").toList

/-- What the validator reads from the required lines. -/
def requiredEntries : Environment :=
  [("POSTGRES_USER", "kairos"), ("POSTGRES_DB", "kairos"),
    ("GRAFANA_ADMIN_USER", "admin"), ("KAIROS_SECRETS_DIR", "/srv/secrets"),
    ("KAIROS_PROCESSING_SCOPE_SHA256",
      "1111111111111111111111111111111111111111111111111111111111111111")]

/-- What it reads from those of PAPER. -/
def paperEntries : Environment :=
  [("POSTGRES_USER", "kairos"), ("POSTGRES_DB", "kairos"),
    ("GRAFANA_ADMIN_USER", "admin"),
    ("KAIROS_PAPER_SECRETS_DIR", "/srv/paper"),
    ("KAIROS_PAPER_ACCOUNT_ID", "kairos-paper-dev-1"),
    ("KAIROS_EVEDEX_DEV_EXPECTED_ACCOUNT_ID", "evedex-dev-1")]

/-- What both readings find where a secret is exported. -/
theorem exportText_read :
    parseDotenv ".env" (requiredText ++ exportLine) =
        .ok
          (requiredEntries ++
            [("export KAIROS_OPENAI_API_KEY", "sk-1")]) ∧
      exportLine ∈ composeLines (requiredText ++ exportLine) ∧
      composeAssignment exportLine =
        some ("KAIROS_OPENAI_API_KEY", "sk-1") := by
  have required : requiredText = _ :=
    toList_append_of
      (toList_append_of
        (toList_append_of String.toList_ofList String.toList_ofList)
        String.toList_ofList)
      String.toList_ofList
  have exported : exportLine = _ := String.toList_ofList
  rw [required, exported]
  refine ⟨?_, ?_, ?_⟩
  all_goals decide

/-- What they find where the time zone is exported. -/
theorem zoneText_read :
    parseDotenv ".env" (requiredText ++ zoneLine) =
        .ok (requiredEntries ++ [("export TZ", "UTC")]) ∧
      composeAssignment zoneLine = some ("TZ", "UTC") ∧
      ∀ line ∈ composeLines (requiredText ++ zoneLine),
        (isExport line = true → line = zoneLine) ∧
          hiddenEntries line = [] := by
  have required : requiredText = _ :=
    toList_append_of
      (toList_append_of
        (toList_append_of String.toList_ofList String.toList_ofList)
        String.toList_ofList)
      String.toList_ofList
  have exported : zoneLine = _ := String.toList_ofList
  rw [required, exported]
  refine ⟨?_, ?_, ?_⟩
  all_goals decide

/-- What they find in the PAPER file. -/
theorem paperText_read :
    parseDotenv ".env" paperText = .ok paperEntries ∧
      ∀ line ∈ composeLines paperText, hiddenEntries line = [] := by
  have paper : paperText = _ :=
    toList_append_of
      (toList_append_of
        (toList_append_of String.toList_ofList String.toList_ofList)
        String.toList_ofList)
      String.toList_ofList
  rw [paper]
  refine ⟨?_, ?_⟩
  all_goals decide

theorem recordedScope_clean :
    processingScopeErrors
        "1111111111111111111111111111111111111111111111111111111111111111" =
      [] := by
  decide

theorem recordedAccount_isPaper :
    isPaperAccount "kairos-paper-dev-1" = true := by
  decide

theorem requiredEntries_clean : validateEnvironment requiredEntries = [] := by
  simp [validateEnvironment, requiredEnv, forbiddenSecretEnv, errorIf,
    valueOf, isSet, lastOf, requiredEntries, List.lookup_cons,
    recordedScope_clean]

theorem paperEntries_clean :
    validatePaperEnvironment paperEntries false = [] := by
  have expected : unexpectedKeys paperEntries = [] := by
    decide
  rw [validatePaperEnvironment, expected]
  simp [requiredPaperEnv, forbiddenPaperNames, errorIf, valueOf, isSet,
    lastOf, paperEntries, List.lookup_cons, recordedAccount_isPaper]

theorem valueOf_append_singleton {environment : Environment}
    {key name : String} (value : String) (apart : name ≠ key) :
    valueOf (environment ++ [(key, value)]) name =
      valueOf environment name := by
  have other : (name == key) = false := beq_false_of_ne apart
  rw [valueOf, valueOf, lastOf, lastOf, List.reverse_append]
  show (((key, value) :: environment.reverse).lookup name).getD "" = _
  rw [List.lookup_cons, other]

theorem isSet_append_singleton {environment : Environment}
    {key name : String} (value : String) (apart : name ≠ key) :
    isSet (environment ++ [(key, value)]) name = isSet environment name := by
  simp [isSet, apart]

/-- A key that the validator does not look for changes nothing. -/
theorem validateEnvironment_append_singleton {environment : Environment}
    {key : String} (value : String) (plain : key ∉ requiredEnv)
    (free : key ∉ "KAIROS_DRY_RUN" :: forbiddenSecretEnv) :
    validateEnvironment (environment ++ [(key, value)]) =
      validateEnvironment environment := by
  have required :
      ∀ name ∈ requiredEnv,
        valueOf (environment ++ [(key, value)]) name =
          valueOf environment name := by
    intro name member
    apply valueOf_append_singleton
    rintro rfl
    exact plain member
  have forbidden :
      ∀ name ∈ "KAIROS_DRY_RUN" :: forbiddenSecretEnv,
        isSet (environment ++ [(key, value)]) name =
          isSet environment name := by
    intro name member
    apply isSet_append_singleton
    rintro rfl
    exact free member
  rw [validateEnvironment, validateEnvironment,
    required "KAIROS_PROCESSING_SCOPE_SHA256" (by simp [requiredEnv]),
    forbidden "KAIROS_DRY_RUN" List.mem_cons_self]
  congr 2
  · congr 1
    apply List.flatMap_congr
    intro name member
    rw [required name member]
  · apply List.flatMap_congr
    intro name member
    rw [forbidden name (List.mem_cons_of_mem _ member)]

/-- An exported secret is accepted. -/
theorem validateEnvironment_passes_export :
    (∃ environment,
        parseDotenv ".env" (requiredText ++ exportLine) = .ok environment ∧
          validateEnvironment environment = []) ∧
      ¬ NoneAssigned forbiddenSecretEnv (requiredText ++ exportLine) := by
  rcases exportText_read with ⟨parsed, listed, assigned⟩
  refine ⟨⟨_, parsed, ?_⟩, fun none => ?_⟩
  · rw [validateEnvironment_append_singleton _ (by decide) (by decide)]
    exact requiredEntries_clean
  · exact none exportLine listed _ assigned (by simp [forbiddenSecretEnv])

/-- The required lines, an exported time zone behind them, and the lines that
PAPER requires, are accepted, and are what Compose reads. -/
theorem interpolation_agrees_iff_required :
    (validateEnvironment (requiredEntries ++ [("export TZ", "UTC")]) = [] ∧
      NoneAssigned forbiddenSecretEnv (requiredText ++ zoneLine) ∧
      AllAssigned requiredEnv (requiredText ++ zoneLine)) ∧
      validatePaperEnvironment paperEntries false = [] ∧
        NoneAssigned forbiddenPaperNames paperText ∧
        AllAssigned requiredPaperEnv paperText := by
  rcases zoneText_read with ⟨parsed, assigned, plain⟩
  rcases paperText_read with ⟨paperParsed, paperPlain⟩
  have clean :
      validateEnvironment (requiredEntries ++ [("export TZ", "UTC")]) =
        [] := by
    rw [validateEnvironment_append_singleton _ (by decide) (by decide)]
    exact requiredEntries_clean
  have agrees := (interpolation_agrees_iff parsed).1 clean
  have paper :=
    (interpolation_agrees_iff paperParsed).2 false paperEntries_clean
  refine
    ⟨⟨clean, agrees.1.2 ?_, (agrees.2 ?_).2 ?_⟩, paperEntries_clean,
      paper.1, paper.2 ?_⟩
  · intro line member exported assignment assigns
    rw [(plain line member).1 exported, assigned] at assigns
    cases assigns
    simp [forbiddenSecretEnv]
  · intro line member entry behind
    rw [(plain line member).2] at behind
    cases behind
  · intro name _ line last exported
    rcases lastLine_eq_some last with ⟨before, after, split, _⟩
    have member : line ∈ composeLines (requiredText ++ zoneLine) := by
      rw [split]
      simp
    rw [(plain line member).1 exported, assigned]
    simp
  · intro line member entry behind
    rw [paperPlain line member] at behind
    cases behind

end Recorded

end KairosDeploy.Compose.Interpolation
