import KairosDeploy.Library.Transition

/-!
# Two runs that write one signed receipt

`_write_signed_receipt` of the clone rehearsal and `_write_receipt` of the
read-only preflight check that a receipt and its signature are absent, sign a
staged copy, create both files exclusively and verify them.  A run that fails
cleans up: the rehearsal unlinks whatever is at the two names, the preflight
only what it has recorded as created.  Two runs of one kind interleave freely,
and each may fail or die at any step.
-/

namespace KairosDeploy.Receipts.ReceiptWriters

open KairosDeploy.Library.Transition

/-! ## Runs and files -/

/-- The two implementations. -/
inductive Kind where
  /-- `_write_signed_receipt`. -/
  | cloneRehearsal
  /-- `_write_receipt`. -/
  | preflight
deriving DecidableEq, Repr

inductive Run where
  | first
  | second
deriving DecidableEq, Repr

/-- The two names that both runs have resolved. -/
inductive Name where
  | receipt
  | signature
deriving DecidableEq, Repr

/-- A file, with the run that created it. -/
structure File where
  creator : Run
  bytes : List UInt8
deriving DecidableEq, Repr

abbrev Files : Type := Name → Option File

/-- Where a run stands. -/
inductive Phase where
  /-- Before the existence check of the receipt. -/
  | start
  /-- Before the existence check of the signature. -/
  | receiptChecked
  /-- Both names were free. -/
  | checked
  /-- The staged copy is written. -/
  | staged
  /-- The staged copy is signed. -/
  | signed
  | receiptWritten
  | signatureWritten
  | verified
  | returned
  /-- After a failure, with the names still to clean up.  `made` says whether
  the run has created the receipt. -/
  | cleaning (made : Bool) (rest : List Name)
  | failed
deriving DecidableEq, Repr

/-- How one step ends. -/
inductive Move where
  | works
  | fails
  /-- The file is created, and writing it fails or is interrupted. -/
  | torn (bytes : List UInt8)
  | dies
deriving DecidableEq, Repr

/-- What the runs write, and how files are compared. -/
structure Setting where
  kind : Kind
  content : Run → Name → List UInt8
  sha256 : List UInt8 → String

/-- The names that a failing run cleans up, from those recorded as created. -/
def Kind.cleanup : Kind → List Name → List Name
  | cloneRehearsal, _ => [.signature, .receipt]
  | preflight, created => created

/-- What one step of one run leaves. -/
structure Outcome where
  phase : Phase
  files : Files
  removed : Option File

section Steps

variable (setting : Setting) (run : Run)

/-- A step that changes no file. -/
def Outcome.of (phase : Phase) (files : Files) : Outcome :=
  ⟨phase, files, none⟩

/-- `_write_new_file`. -/
def create (name : Name) (files : Files) (bytes : List UInt8)
    (created occupied : Phase) : Outcome :=
  if files name = none then
    ⟨created, Function.update files name (some ⟨run, bytes⟩), none⟩
  else
    .of occupied files

/-- Whether a failing run unlinks a file. -/
def removable (name : Name) (file : File) : Bool :=
  match setting.kind with
  | .cloneRehearsal => true
  | .preflight =>
      setting.sha256 file.bytes = setting.sha256 (setting.content run name)

/-- The removal of one name. -/
def remove (name : Name) (files : Files) (phase : Phase) : Outcome :=
  match files name with
  | none => .of phase files
  | some file =>
      if removable setting run name file then
        ⟨phase, Function.update files name none, some file⟩
      else
        .of phase files

/-- The phase of a run that fails. -/
def failing (made : Bool) (created : List Name) : Phase :=
  .cleaning made (setting.kind.cleanup created)

/-- One step of one run. -/
def advance (files : Files) : Phase → Move → Option Outcome
  | .returned, _ => none
  | .failed, _ => none
  | _, .dies => some (.of .failed files)
  | .start, .works =>
      some
        (.of (if files .receipt = none then .receiptChecked else .failed)
          files)
  | .start, .fails => some (.of .failed files)
  | .receiptChecked, .works =>
      some (.of (if files .signature = none then .checked else .failed) files)
  | .receiptChecked, .fails => some (.of .failed files)
  | .checked, .works => some (.of .staged files)
  | .checked, .fails => some (.of .failed files)
  | .staged, .works => some (.of .signed files)
  | .staged, .fails => some (.of (failing setting false []) files)
  | .signed, .works =>
      some
        (create run .receipt files (setting.content run .receipt)
          .receiptWritten (failing setting false []))
  | .signed, .fails => some (.of (failing setting false []) files)
  | .signed, .torn bytes =>
      some
        (create run .receipt files bytes (failing setting true [])
          (failing setting false []))
  | .receiptWritten, .works =>
      some
        (create run .signature files (setting.content run .signature)
          .signatureWritten (failing setting true [.receipt]))
  | .receiptWritten, .fails =>
      some (.of (failing setting true [.receipt]) files)
  | .receiptWritten, .torn bytes =>
      some
        (create run .signature files bytes (failing setting true [.receipt])
          (failing setting true [.receipt]))
  | .signatureWritten, .works =>
      -- `_verify_signature` raises where a file is missing.
      some
        (.of
          (if files .receipt = none ∨ files .signature = none then
            failing setting true [.signature, .receipt]
          else .verified)
          files)
  | .signatureWritten, .fails =>
      some (.of (failing setting true [.signature, .receipt]) files)
  | .verified, .works => some (.of .returned files)
  | .verified, .fails => some (.of .failed files)
  | .cleaning made (name :: rest), .works =>
      some (remove setting run name files (.cleaning made rest))
  | .cleaning _ [], .works => some (.of .failed files)
  | .cleaning _ _, .fails => some (.of .failed files)
  | _, .torn _ => none

end Steps

/-! ## Two runs -/

/-- Both runs and the two names, with every removal so far. -/
structure State where
  phase : Run → Phase
  files : Files
  removals : List (Run × File)

def State.initial : State where
  phase _ := .start
  files _ := none
  removals := []

/-- One step of the two runs. -/
def step (setting : Setting) (state : State) (action : Run × Move) :
    Option State :=
  (advance setting action.1 state.files (state.phase action.1) action.2).map
    fun outcome =>
      { phase := Function.update state.phase action.1 outcome.phase
        files := outcome.files
        removals :=
          outcome.removed.toList.map (fun file => (action.1, file)) ++
            state.removals }

/-- A run of the rehearsal unlinks a name only if it has created the receipt
itself or there is no receipt. -/
def careful (setting : Setting) (state : State) (action : Run × Move) : Bool :=
  match setting.kind, state.phase action.1, action.2 with
  | .cloneRehearsal, .cleaning made (_ :: _), .works =>
      made || (state.files .receipt).isNone
  | _, _, _ => true

/-- The steps of careful runs. -/
def carefulStep (setting : Setting) (state : State) (action : Run × Move) :
    Option State :=
  if careful setting state action then step setting state action else none

/-! ## Whose files there are -/

/-- The names that a run has written in full and not begun to remove. -/
def Phase.written : Phase → List Name
  | .receiptWritten => [.receipt]
  | .signatureWritten | .verified | .returned => [.signature, .receipt]
  | _ => []

/-- The names at which a run relies on a file of its own. -/
def claims (kind : Kind) : Phase → List Name
  | .cleaning made rest =>
      match kind with
      | .preflight => rest
      | .cloneRehearsal =>
          if made = true ∧ .receipt ∈ rest then [.receipt] else []
  | phase => phase.written

/-- A run of the rehearsal has unlinked the signature and not the receipt. -/
def Phase.signatureGone : Phase → Bool
  | .cleaning _ rest => !rest.contains .signature
  | _ => false

/-- What holds of one run. -/
structure Owns (setting : Setting) (run : Run) (phase : Phase)
    (files : Files) : Prop where
  claimed :
    ∀ name ∈ claims setting.kind phase,
      ∃ file, files name = some file ∧ file.creator = run
  full :
    ∀ name ∈ phase.written,
      files name = some ⟨run, setting.content run name⟩
  gone :
    setting.kind = .cloneRehearsal → phase.signatureGone = true →
      ∀ file, files .signature = some file → file.creator ≠ run
  ordered :
    ∀ made rest, phase = .cleaning made rest →
      rest <:+ [.signature, .receipt]

/-- In the rehearsal, a signature lies beside a receipt of the same run. -/
def Paired (setting : Setting) (files : Files) : Prop :=
  setting.kind = .cloneRehearsal →
    ∀ file, files .signature = some file →
      ∃ receipt, files .receipt = some receipt ∧
        receipt.creator = file.creator

/-- What a step of a run may do to the files. -/
inductive Change (run : Run) (before after : Files) : Prop where
  | nothing (same : after = before)
  | created (name : Name) (bytes : List UInt8) (free : before name = none)
      (same : after = Function.update before name (some ⟨run, bytes⟩))
  | removed (name : Name) (file : File) (there : before name = some file)
      (own : file.creator = run)
      (same : after = Function.update before name none)

/-- What a step of a run leaves. -/
structure Leaves (setting : Setting) (run : Run) (files : Files)
    (outcome : Outcome) : Prop where
  change : Change run files outcome.files
  owns : Owns setting run outcome.phase outcome.files
  paired : Paired setting outcome.files
  removed : ∀ file ∈ outcome.removed, file.creator = run

variable {setting : Setting} {run : Run} {files : Files}

theorem mem_claims_rehearsal {name : Name} {made : Bool}
    {rest : List Name} :
    name ∈ claims .cloneRehearsal (.cleaning made rest) ↔
      name = .receipt ∧ made = true ∧ .receipt ∈ rest := by
  show name ∈ (if made = true ∧ .receipt ∈ rest then [.receipt] else []) ↔ _
  by_cases own : made = true ∧ .receipt ∈ rest
  · rw [if_pos own, List.mem_singleton, and_iff_left own]
  · rw [if_neg own]
    simp only [List.not_mem_nil, own, and_false]

theorem owns_of_no_claims {phase : Phase}
    (claimsNone : claims setting.kind phase = [])
    (writtenNone : phase.written = [])
    (notCleaning : ∀ made rest, phase ≠ .cleaning made rest) :
    Owns setting run phase files where
  claimed := by simp [claimsNone]
  full := by simp [writtenNone]
  gone := by
    intro _ gone
    cases phase with
    | cleaning made rest => exact absurd rfl (notCleaning made rest)
    | _ => cases gone
  ordered := fun made rest same => absurd same (notCleaning made rest)

theorem leaves_of {phase : Phase} (paired : Paired setting files)
    (owns : Owns setting run phase files) :
    Leaves setting run files (.of phase files) :=
  ⟨.nothing rfl, owns, paired, fun _ impossible => nomatch impossible⟩

/-- A failing run cleans up only what it has created. -/
theorem owns_failing {made : Bool} {created : List Name}
    (receipt :
      made = true → ∃ file, files .receipt = some file ∧ file.creator = run)
    (recorded :
      ∀ name ∈ created, ∃ file, files name = some file ∧ file.creator = run)
    (ordered : created <:+ [.signature, .receipt]) :
    Owns setting run (failing setting made created) files := by
  unfold failing
  cases kind : setting.kind with
  | cloneRehearsal =>
      refine ⟨fun name member => ?_, ?_, ?_, ?_⟩
      · rw [kind, mem_claims_rehearsal] at member
        rcases member with ⟨rfl, own, _⟩
        exact receipt own
      · exact fun _ impossible => nomatch impossible
      · exact fun _ impossible => nomatch impossible
      · rintro _ _ same
        cases same
        exact List.suffix_refl _
  | preflight =>
      refine ⟨?_, ?_, ?_, ?_⟩
      · rw [kind]
        exact recorded
      · exact fun _ impossible => nomatch impossible
      · rw [kind]
        exact fun impossible => nomatch impossible
      · rintro _ _ same
        cases same
        exact ordered

/-! ## One step of one run -/

theorem leaves_create {name : Name} {bytes : List UInt8}
    {created occupied : Phase} (paired : Paired setting files)
    (pairedAfter :
      files name = none →
        Paired setting (Function.update files name (some ⟨run, bytes⟩)))
    (ownsCreated :
      files name = none →
        Owns setting run created
          (Function.update files name (some ⟨run, bytes⟩)))
    (ownsOccupied : Owns setting run occupied files) :
    Leaves setting run files
      (create run name files bytes created occupied) := by
  unfold create
  split_ifs with free
  · exact
      ⟨.created name bytes free rfl, ownsCreated free, pairedAfter free,
        fun _ impossible => nomatch impossible⟩
  · exact leaves_of paired ownsOccupied

/-- Beside no receipt there is no signature. -/
theorem Paired.signature_eq_none (paired : Paired setting files)
    (rehearsal : setting.kind = .cloneRehearsal)
    (missing : files .receipt = none) : files .signature = none := by
  cases found : files .signature with
  | none => rfl
  | some file =>
      rcases paired rehearsal file found with ⟨receipt, there, _⟩
      rw [missing] at there
      cases there

theorem Paired.create_receipt {bytes : List UInt8}
    (paired : Paired setting files) (free : files .receipt = none) :
    Paired setting (Function.update files .receipt (some ⟨run, bytes⟩)) := by
  intro rehearsal file found
  rw [Function.update_of_ne (by decide),
    paired.signature_eq_none rehearsal free] at found
  cases found

theorem paired_create_signature {bytes : List UInt8}
    (receipt : ∃ file, files .receipt = some file ∧ file.creator = run) :
    Paired setting
      (Function.update files .signature (some ⟨run, bytes⟩)) := by
  intro _ file found
  rw [Function.update_self] at found
  cases found
  rw [Function.update_of_ne (by decide)]
  exact receipt

/-- The own receipt stays where only the signature changes. -/
theorem receipt_of_update_signature {signature : Option File}
    (receipt : ∃ file, files .receipt = some file ∧ file.creator = run) :
    ∃ file,
      Function.update files .signature signature .receipt = some file ∧
        file.creator = run := by
  rw [Function.update_of_ne (by decide)]
  exact receipt

theorem owns_receiptWritten
    (full :
      files .receipt = some ⟨run, setting.content run .receipt⟩) :
    Owns setting run .receiptWritten files where
  claimed := by
    intro name member
    rw [List.mem_singleton.1 member]
    exact ⟨_, full, rfl⟩
  full := by
    intro name member
    rw [List.mem_singleton.1 member]
    exact full
  gone := fun _ impossible => nomatch impossible
  ordered := fun _ _ impossible => nomatch impossible

/-- A phase in which both files are written in full. -/
theorem owns_of_both {phase : Phase}
    (written : phase.written = [.signature, .receipt])
    (claimed : claims setting.kind phase = phase.written)
    (present : phase.signatureGone = false)
    (notCleaning : ∀ made rest, phase ≠ .cleaning made rest)
    (receipt : files .receipt = some ⟨run, setting.content run .receipt⟩)
    (signature :
      files .signature = some ⟨run, setting.content run .signature⟩) :
    Owns setting run phase files := by
  have full :
      ∀ name ∈ phase.written,
        files name = some ⟨run, setting.content run name⟩ := by
    rw [written]
    intro name _
    cases name with
    | receipt => exact receipt
    | signature => exact signature
  refine
    ⟨fun name member => ?_, full, fun _ gone => ?_,
      fun made rest same => absurd same (notCleaning made rest)⟩
  · rw [claimed] at member
    exact ⟨_, full name member, rfl⟩
  · rw [present] at gone
    cases gone

/-- The preflight removes only what it has recorded. -/
theorem leaves_remove_preflight {made : Bool} {name : Name}
    {rest : List Name} (preflight : setting.kind = .preflight)
    (owns : Owns setting run (.cleaning made (name :: rest)) files) :
    Leaves setting run files
      (remove setting run name files (.cleaning made rest)) := by
  have ordered := owns.ordered made _ rfl
  have claimed := owns.claimed
  simp only [claims, preflight] at claimed
  have pairedAny {changed : Files} : Paired setting changed := by
    intro rehearsal
    rw [preflight] at rehearsal
    cases rehearsal
  have ownsRest {changed : Files}
      (same : ∀ other ∈ rest, changed other = files other) :
      Owns setting run (.cleaning made rest) changed := by
    refine ⟨?_, (fun _ impossible => nomatch impossible), ?_, ?_⟩
    · simp only [claims, preflight]
      intro other member
      rw [same other member]
      exact claimed other (List.mem_cons_of_mem name member)
    · intro rehearsal
      rw [preflight] at rehearsal
      cases rehearsal
    · rintro _ _ equal
      cases equal
      exact (List.suffix_cons name rest).trans ordered
  have fresh : name ∉ rest := by
    have distinct : (name :: rest).Nodup :=
      ordered.sublist.nodup (by decide)
    exact (List.nodup_cons.1 distinct).1
  rcases claimed name List.mem_cons_self with ⟨file, there, own⟩
  unfold remove
  rw [there]
  dsimp only
  split_ifs
  · refine
      ⟨.removed name file there own rfl, ownsRest ?_, pairedAny, ?_⟩
    · intro other member
      exact
        Function.update_of_ne (ne_of_mem_of_not_mem member fresh) _ _
    · rintro removed member
      cases member
      exact own
  · exact leaves_of pairedAny (ownsRest fun _ _ => rfl)

/-- In the rehearsal, a careful run removes its own files, or none. -/
theorem leaves_remove_rehearsal {made : Bool} {name : Name}
    {rest : List Name} (rehearsal : setting.kind = .cloneRehearsal)
    (paired : Paired setting files)
    (owns : Owns setting run (.cleaning made (name :: rest)) files)
    (careful : made = true ∨ files .receipt = none) :
    Leaves setting run files
      (remove setting run name files (.cleaning made rest)) := by
  have ordered := owns.ordered made _ rfl
  have listed : .receipt ∈ name :: rest := by
    rcases ordered with ⟨front, same⟩
    have last := congrArg List.getLast? same
    rw [List.getLast?_append_of_ne_nil _ (List.cons_ne_nil _ _)] at last
    exact List.mem_of_getLast? last
  have ownsRest {changed : Files}
      (receipt :
        made = true → .receipt ∈ rest →
          ∃ file, changed .receipt = some file ∧ file.creator = run)
      (gone :
        rest.contains .signature = false →
          ∀ file, changed .signature = some file → file.creator ≠ run) :
      Owns setting run (.cleaning made rest) changed := by
    refine ⟨?_, (fun _ impossible => nomatch impossible), ?_, ?_⟩
    · rw [rehearsal]
      intro other member
      rcases mem_claims_rehearsal.1 member with ⟨rfl, own, left⟩
      exact receipt own left
    · intro _ signatureGone
      exact gone (by simpa [Phase.signatureGone] using signatureGone)
    · rintro _ _ equal
      cases equal
      exact (List.suffix_cons name rest).trans ordered
  by_cases own : made = true
  · have receipt :
        ∃ file, files .receipt = some file ∧ file.creator = run := by
      refine owns.claimed .receipt ?_
      rw [rehearsal]
      exact mem_claims_rehearsal.2 ⟨rfl, own, listed⟩
    have always (file : File) : removable setting run name file = true := by
      rw [removable, rehearsal]
    have removes {file : File} (there : files name = some file)
        (mine : file.creator = run)
        (pairedAfter : Paired setting (Function.update files name none))
        (ownsAfter :
          Owns setting run (.cleaning made rest)
            (Function.update files name none)) :
        Leaves setting run files
          (remove setting run name files (.cleaning made rest)) := by
      unfold remove
      rw [there]
      dsimp only
      rw [if_pos (always file)]
      refine ⟨.removed name file there mine rfl, ownsAfter, pairedAfter, ?_⟩
      rintro removed member
      cases member
      exact mine
    cases name with
    | signature =>
        cases found : files .signature with
        | none =>
            unfold remove
            rw [found]
            refine leaves_of paired (ownsRest (fun _ _ => receipt) ?_)
            intro _ file impossible
            rw [found] at impossible
            cases impossible
        | some file =>
            rcases receipt with ⟨beside, there, mine⟩
            rcases paired rehearsal file found with ⟨other, same, creator⟩
            rw [there] at same
            cases same
            refine removes found (creator.symm.trans mine) ?_ (ownsRest ?_ ?_)
            · intro _ file impossible
              rw [Function.update_self] at impossible
              cases impossible
            · exact fun _ _ =>
                receipt_of_update_signature ⟨beside, there, mine⟩
            · intro _ file impossible
              rw [Function.update_self] at impossible
              cases impossible
    | receipt =>
        have last : rest = [] := by
          have length := ordered.length_le
          rcases ordered with ⟨front, same⟩
          cases rest with
          | nil => rfl
          | cons next more =>
              have front_nil : front = [] := by
                have lengths := congrArg List.length same
                simp only [List.length_append, List.length_cons,
                  List.length_nil] at lengths
                exact List.eq_nil_of_length_eq_zero (by omega)
              rw [front_nil] at same
              cases same
        subst last
        have gone := owns.gone rehearsal rfl
        rcases receipt with ⟨file, there, mine⟩
        have unsigned : files .signature = none := by
          cases found : files .signature with
          | none => rfl
          | some signature =>
              rcases paired rehearsal signature found with
                ⟨other, same, creator⟩
              rw [there] at same
              cases same
              exact absurd (creator.symm.trans mine) (gone signature found)
        have stillUnsigned :
            Function.update files .receipt none .signature = none := by
          rw [Function.update_of_ne (by decide)]
          exact unsigned
        refine removes there mine ?_ (ownsRest ?_ ?_)
        · intro _ signature impossible
          rw [stillUnsigned] at impossible
          cases impossible
        · exact fun _ impossible => nomatch impossible
        · intro _ signature impossible
          rw [stillUnsigned] at impossible
          cases impossible
  · have missing := careful.resolve_left own
    have unsigned := paired.signature_eq_none rehearsal missing
    have free : files name = none := by
      cases name with
      | receipt => exact missing
      | signature => exact unsigned
    unfold remove
    rw [free]
    refine leaves_of paired (ownsRest (fun made => absurd made own) ?_)
    intro _ file found
    rw [unsigned] at found
    cases found

/-- Every careful step of a run leaves its files in order. -/
theorem advance_leaves {phase : Phase} {move : Move} {outcome : Outcome}
    (paired : Paired setting files) (owns : Owns setting run phase files)
    (careful :
      setting.kind = .cloneRehearsal → move = .works →
        ∀ made name rest, phase = .cleaning made (name :: rest) →
          made = true ∨ files .receipt = none)
    (taken : advance setting run files phase move = some outcome) :
    Leaves setting run files outcome := by
  have plain {other : Phase} (claimsNone : claims setting.kind other = [])
      (writtenNone : other.written = [])
      (notCleaning : ∀ made rest, other ≠ .cleaning made rest) :
      Leaves setting run files (.of other files) :=
    leaves_of paired (owns_of_no_claims claimsNone writtenNone notCleaning)
  have ended : Leaves setting run files (.of .failed files) :=
    plain rfl rfl fun _ _ impossible => nomatch impossible
  have nothingMade :
      Owns setting run (failing setting false []) files :=
    owns_failing (fun impossible => nomatch impossible)
      (fun _ impossible => nomatch impossible) (List.nil_suffix)
  have dead (died : advance setting run files phase .dies = some outcome) :
      Leaves setting run files outcome := by
    cases phase <;> cases died <;> exact ended
  cases move with
  | dies => exact dead taken
  | works =>
      cases phase with
      | start =>
          cases taken
          split_ifs
          · exact plain rfl rfl fun _ _ impossible => nomatch impossible
          · exact ended
      | receiptChecked =>
          cases taken
          split_ifs
          · exact plain rfl rfl fun _ _ impossible => nomatch impossible
          · exact ended
      | checked =>
          cases taken
          exact plain rfl rfl fun _ _ impossible => nomatch impossible
      | staged =>
          cases taken
          exact plain rfl rfl fun _ _ impossible => nomatch impossible
      | signed =>
          cases taken
          refine
            leaves_create paired paired.create_receipt (fun _ => ?_)
              nothingMade
          exact owns_receiptWritten (Function.update_self _ _ _)
      | receiptWritten =>
          cases taken
          have full := owns.full .receipt List.mem_cons_self
          have receipt := owns.claimed .receipt List.mem_cons_self
          refine
            leaves_create paired
              (fun _ => paired_create_signature receipt) (fun _ => ?_) ?_
          · refine
              owns_of_both rfl rfl rfl
                (fun _ _ impossible => nomatch impossible) ?_
                (Function.update_self _ _ _)
            rw [Function.update_of_ne (by decide)]
            exact full
          · refine owns_failing (fun _ => receipt) ?_ ⟨[.signature], rfl⟩
            intro name member
            rw [List.mem_singleton.1 member]
            exact receipt
      | signatureWritten =>
          cases taken
          have both := owns.claimed
          split_ifs
          · exact
              leaves_of paired
                (owns_failing
                  (fun _ =>
                    both .receipt (List.mem_cons_of_mem _ List.mem_cons_self))
                  both
                  (List.suffix_refl _))
          · exact
              leaves_of paired
                (owns_of_both rfl rfl rfl
                  (fun _ _ impossible => nomatch impossible)
                  (owns.full .receipt (by decide))
                  (owns.full .signature (by decide)))
      | verified =>
          cases taken
          exact
            leaves_of paired
              (owns_of_both rfl rfl rfl
                (fun _ _ impossible => nomatch impossible)
                (owns.full .receipt (by decide))
                (owns.full .signature (by decide)))
      | cleaning made rest =>
          cases rest with
          | nil =>
              cases taken
              exact ended
          | cons name rest =>
              cases taken
              cases kind : setting.kind with
              | preflight => exact leaves_remove_preflight kind owns
              | cloneRehearsal =>
                  exact
                    leaves_remove_rehearsal kind paired owns
                      (careful kind rfl made name rest rfl)
      | returned => cases taken
      | failed => cases taken
  | fails =>
      cases phase with
      | staged =>
          cases taken
          exact leaves_of paired nothingMade
      | signed =>
          cases taken
          exact leaves_of paired nothingMade
      | receiptWritten =>
          cases taken
          have receipt := owns.claimed .receipt List.mem_cons_self
          refine
            leaves_of paired
              (owns_failing (fun _ => receipt) ?_ ⟨[.signature], rfl⟩)
          intro name member
          rw [List.mem_singleton.1 member]
          exact receipt
      | signatureWritten =>
          cases taken
          have both := owns.claimed
          exact
            leaves_of paired
              (owns_failing
                  (fun _ =>
                    both .receipt (List.mem_cons_of_mem _ List.mem_cons_self))
                  both
                (List.suffix_refl _))
      | cleaning made rest =>
          cases rest <;> cases taken <;> exact ended
      | returned => cases taken
      | failed => cases taken
      | _ =>
          cases taken
          exact ended
  | torn bytes =>
      cases phase with
      | signed =>
          cases taken
          refine
            leaves_create paired paired.create_receipt (fun _ => ?_)
              nothingMade
          refine
            owns_failing
              (fun _ => ⟨_, Function.update_self _ _ _, rfl⟩)
              (fun _ impossible => nomatch impossible) List.nil_suffix
      | receiptWritten =>
          cases taken
          have receipt := owns.claimed .receipt List.mem_cons_self
          refine
            leaves_create paired
              (fun _ => paired_create_signature receipt) (fun _ => ?_) ?_
          · refine
              owns_failing (fun _ => receipt_of_update_signature receipt)
                ?_ ⟨[.signature], rfl⟩
            intro name member
            rw [List.mem_singleton.1 member]
            exact receipt_of_update_signature receipt
          · refine owns_failing (fun _ => receipt) ?_ ⟨[.signature], rfl⟩
            intro name member
            rw [List.mem_singleton.1 member]
            exact receipt
      | cleaning made rest => cases rest <;> cases taken
      | _ => cases taken

/-- A run keeps what it owns while another run takes a step. -/
theorem Owns.of_other {other : Run} {phase : Phase} {after : Files}
    (owns : Owns setting other phase files) (apart : other ≠ run)
    (change : Change run files after) : Owns setting other phase after := by
  have same {name : Name} {file : File} (there : files name = some file)
      (mine : file.creator = other) : after name = some file := by
    cases change with
    | nothing same => rw [same, there]
    | created changed bytes free same =>
        have ne : name ≠ changed := by
          rintro rfl
          rw [free] at there
          cases there
        rw [same, Function.update_of_ne ne, there]
    | removed changed gone found own same =>
        have ne : name ≠ changed := by
          rintro rfl
          rw [found] at there
          cases there
          exact apart (mine.symm.trans own)
        rw [same, Function.update_of_ne ne, there]
  refine ⟨?_, ?_, ?_, owns.ordered⟩
  · intro name member
    rcases owns.claimed name member with ⟨file, there, mine⟩
    exact ⟨file, same there mine, mine⟩
  · intro name member
    exact same (owns.full name member) rfl
  · intro rehearsal gone file found
    have before := owns.gone rehearsal gone
    cases change with
    | nothing same => exact before file (same ▸ found)
    | created changed bytes free same =>
        rw [same] at found
        by_cases at_changed : Name.signature = changed
        · subst at_changed
          rw [Function.update_self] at found
          cases found
          exact apart.symm
        · rw [Function.update_of_ne at_changed] at found
          exact before file found
    | removed changed removed there own same =>
        rw [same] at found
        by_cases at_changed : Name.signature = changed
        · subst at_changed
          rw [Function.update_self] at found
          cases found
        · rw [Function.update_of_ne at_changed] at found
          exact before file found

/-! ## Both runs -/

/-- What holds in every state of careful runs. -/
structure Ordered (setting : Setting) (state : State) : Prop where
  owns : ∀ run, Owns setting run (state.phase run) state.files
  paired : Paired setting state.files
  removals : ∀ removal ∈ state.removals, removal.2.creator = removal.1

theorem ordered_initial (setting : Setting) :
    Ordered setting State.initial where
  owns _ :=
    owns_of_no_claims rfl rfl fun _ _ impossible => nomatch impossible
  paired := fun _ _ impossible => nomatch impossible
  removals := fun _ impossible => nomatch impossible

theorem Ordered.step {before after : State} {action : Run × Move}
    (ordered : Ordered setting before)
    (taken : carefulStep setting before action = some after) :
    Ordered setting after := by
  unfold carefulStep at taken
  split_ifs at taken with care
  rcases Option.map_eq_some_iff.1 taken with ⟨outcome, advanced, rfl⟩
  rcases action with ⟨run, move⟩
  have leaves : Leaves setting run before.files outcome := by
    refine advance_leaves ordered.paired (ordered.owns run) ?_ advanced
    rintro rehearsal rfl made name rest cleaning
    simp only [careful, rehearsal, cleaning, Bool.or_eq_true,
      Option.isNone_iff_eq_none] at care
    exact care
  refine ⟨fun other => ?_, leaves.paired, ?_⟩
  · show Owns setting other
      (Function.update before.phase run outcome.phase other) outcome.files
    by_cases same : other = run
    · subst same
      rw [Function.update_self]
      exact leaves.owns
    · rw [Function.update_of_ne same]
      exact (ordered.owns other).of_other same leaves.change
  · intro removal member
    rcases List.mem_append.1 member with fresh | old
    · rcases List.mem_map.1 fresh with ⟨file, removed, rfl⟩
      exact leaves.removed file (Option.mem_toList.1 removed)
    · exact ordered.removals removal old

/-- What two writers of one receipt must guarantee in a state. -/
structure Safe (setting : Setting) (state : State) : Prop where
  /-- No run has deleted a file of the other. -/
  own : ∀ removal ∈ state.removals, removal.2.creator = removal.1
  /-- A run that returned has left its own receipt and signature. -/
  inPlace :
    ∀ run, state.phase run = .returned → ∀ name,
      state.files name = some ⟨run, setting.content run name⟩
  /-- At most one run returns. -/
  single :
    ¬ (state.phase .first = .returned ∧ state.phase .second = .returned)

theorem Ordered.safe {state : State} (ordered : Ordered setting state) :
    Safe setting state := by
  have inPlace (run : Run) (returned : state.phase run = .returned)
      (name : Name) :
      state.files name = some ⟨run, setting.content run name⟩ := by
    refine (ordered.owns run).full name ?_
    rw [returned]
    cases name <;> decide
  refine ⟨ordered.removals, inPlace, ?_⟩
  rintro ⟨first, second⟩
  have one := inPlace .first first .receipt
  have two := inPlace .second second .receipt
  rw [one] at two
  cases two

/-- The preflight is careful by itself. -/
theorem careful_preflight (preflight : setting.kind = .preflight)
    (state : State) (action : Run × Move) :
    carefulStep setting state action = step setting state action := by
  unfold carefulStep careful
  rw [preflight]
  exact if_pos rfl

/--
Along every interleaving of two runs in which no run of the rehearsal unlinks
a name while the receipt there is not its own, a run removes only its own
files, a run that returns leaves its receipt and signature in place, and at
most one run returns.  The preflight meets the condition always.
-/
theorem receiptWriters_safe (setting : Setting) (state : State)
    (run : Reaches (carefulStep setting) State.initial state) :
    Safe setting state :=
  (run.invariant (Ordered setting) (ordered_initial setting)
    fun _ _ _ => Ordered.step).safe

/-- Two runs of a kind with different contents. -/
def sampleSetting (kind : Kind) : Setting where
  kind := kind
  content run name :=
    match run, name with
    | .first, .receipt => [1]
    | .first, .signature => [2]
    | .second, .receipt => [3]
    | .second, .signature => [4]
  sha256 bytes := toString bytes

/-- The interleaving in which the first run finds the names free, the second
run writes both files and returns, and the first run fails and takes some
steps of its clean-up. -/
def overtaken (steps : Nat) : List (Run × Move) :=
  List.replicate 2 (.first, .works) ++ List.replicate 8 (.second, .works) ++
    List.replicate (3 + steps) (.first, .works)

/-- The state after that interleaving. -/
def overtakenState (kind : Kind) (steps : Nat) : State :=
  (perform (step (sampleSetting kind)) State.initial
    (overtaken steps)).getD State.initial

/-- In the rehearsal, the first run deletes the receipt and the signature that
the second run has returned. -/
theorem receiptWriters_overtaken :
    Reaches (step (sampleSetting .cloneRehearsal)) State.initial
        (overtakenState .cloneRehearsal 2) ∧
      (overtakenState .cloneRehearsal 2).phase .second = .returned ∧
      (overtakenState .cloneRehearsal 2).files .receipt = none ∧
      ¬ Safe (sampleSetting .cloneRehearsal)
        (overtakenState .cloneRehearsal 2) := by
  have performed :
      perform (step (sampleSetting .cloneRehearsal)) State.initial
          (overtaken 2) =
        some (overtakenState .cloneRehearsal 2) := rfl
  refine ⟨reaches_of_perform performed, rfl, rfl, fun safe => ?_⟩
  have own := safe.own (.first, ⟨.second, [4]⟩) (by decide)
  cases own

/-- Steps of one run that work. -/
def turns (run : Run) (count : Nat) : List (Run × Move) :=
  List.replicate count (run, Move.works)

/-- The interleaving in which both runs of the rehearsal find the names free,
the first run fails with both files written and removes them, and the second
run then writes its own and returns. -/
def withdrawn : List (Run × Move) :=
  turns .second 2 ++ turns .first 6 ++ [(Run.first, Move.fails)] ++
    turns .first 3 ++ turns .second 6

/-- The state after that interleaving. -/
def withdrawnState : State :=
  (perform (carefulStep (sampleSetting .cloneRehearsal)) State.initial
    withdrawn).getD State.initial

/-- A run of the rehearsal that removes its own two files does no harm to the
run that returns after it, nor does the interleaving above to two
preflights. -/
theorem receiptWriters_safe_overtaken :
    (withdrawnState.removals =
        [(.first, ⟨.first, [1]⟩), (.first, ⟨.first, [2]⟩)] ∧
      withdrawnState.phase .second = .returned ∧
      Safe (sampleSetting .cloneRehearsal) withdrawnState) ∧
      Safe (sampleSetting .preflight) (overtakenState .preflight 1) := by
  have rehearsed :
      perform (carefulStep (sampleSetting .cloneRehearsal)) State.initial
          withdrawn =
        some withdrawnState := rfl
  have preflown :
      perform (carefulStep (sampleSetting .preflight)) State.initial
          (overtaken 1) =
        some (overtakenState .preflight 1) := rfl
  constructor
  · refine ⟨rfl, rfl, ?_⟩
    exact receiptWriters_safe _ _ (reaches_of_perform rehearsed)
  · exact receiptWriters_safe _ _ (reaches_of_perform preflown)

end KairosDeploy.Receipts.ReceiptWriters
