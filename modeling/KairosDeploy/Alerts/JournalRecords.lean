import KairosDeploy.Alerts.Qualification

/-!
# The records of the qualification journal

A run of `qualify` that succeeds appends four records.  Wherever it fails or is
killed, the journal holds the first records, a part of the next one and a part
of one record of the failure, and the last of the four records is begun only
after the message was sent and accepted.
-/

namespace KairosDeploy.Alerts.JournalRecords

open KairosDeploy.Alerts.Qualification
open KairosDeploy.Library.HexDigest
open KairosDeploy.Library.JsonText
open KairosDeploy.Library.JsonValue
open KairosDeploy.Library.Timestamp
open KairosDeploy.Library.Transition

/-! ## Records -/

/-- The position of a record, for those that do not report a failure. -/
def position : Append → Option Nat
  | .journal => some 0
  | .identity => some 1
  | .reservation => some 2
  | .acceptance => some 3
  | .failure _ => none

/-- The number of records that a request follows. -/
def recordsBefore : Method → Nat
  | .getMe | .getChat => 1
  | .sendMessage => 3

/-- What a run that succeeds has to record. -/
structure Account where
  implementation : String
  times : Nat → CivilTime
  message : Int

namespace Account

/-- `result` as the identities are asked for. -/
def identified (account : Account) : Result :=
  { Result.initial account.implementation with getMe := 1, getChat := 1 }

/-- `result` as the identities are recorded. -/
def verified (account : Account) : Result :=
  account.identified.recorded "IDENTITY_VERIFIED" none

/-- `result` as the message is reserved. -/
def reserved (account : Account) : Result :=
  { account.verified with sendAttempts := 1 }.recorded "SEND_RESERVED" none

/-- `result` as the message is sent. -/
def sending (account : Account) : Result :=
  { account.reserved with sendMessage := 1 }

/-- `result` as the acceptance is recorded. -/
def accepted (account : Account) : Result :=
  { account.sending with
    transportAccepted := true
    messageId := some account.message }.recorded "TRANSPORT_ACCEPTED" none

/-- `result` at each record. -/
def resultAt (account : Account) : Nat → Result
  | 0 => .initial account.implementation
  | 1 => account.verified
  | 2 => account.reserved
  | _ => account.accepted

/-- `result` at each request. -/
def asked (account : Account) : Method → Result
  | .getMe => { Result.initial account.implementation with getMe := 1 }
  | .getChat => account.identified
  | .sendMessage => account.sending

/-- The time of a record is known. -/
def atTime (account : Account) (index : Nat) (time : CivilTime) : Account :=
  { account with times := Function.update account.times index time }

section

variable (floats : FloatText) (sha256 : Sha256) (account : Account)

/-- The line of a record; only the first has no time. -/
def line : Nat → List UInt8
  | 0 => openingLine floats sha256 (account.resultAt 0)
  | index + 1 =>
      recordLine floats sha256 (account.resultAt (index + 1))
        (account.times (index + 1))

theorem line_congr
    {other : Account} {index : Nat}
    (results : other.resultAt index = account.resultAt index)
    (times : other.times index = account.times index) :
    other.line floats sha256 index = account.line floats sha256 index := by
  cases index with
  | zero =>
      show openingLine floats sha256 (other.resultAt 0) = _
      rw [results]
      rfl
  | succ index =>
      show recordLine floats sha256 (other.resultAt (index + 1))
        (other.times (index + 1)) = _
      rw [results, times]
      rfl

/-- The first records. -/
def front (count : Nat) : List UInt8 :=
  ((List.range count).map (account.line floats sha256)).flatten

theorem front_succ (count : Nat) :
    account.front floats sha256 (count + 1) =
      account.front floats sha256 count ++
        account.line floats sha256 count := by
  unfold front
  rw [List.range_succ, List.map_append, List.flatten_append,
    List.map_singleton, List.flatten_singleton]

/-- Earlier records keep their lines. -/
theorem front_congr
    {other : Account} {count : Nat}
    (same :
      ∀ index < count,
        other.line floats sha256 index = account.line floats sha256 index) :
    other.front floats sha256 count = account.front floats sha256 count := by
  have lines :
      (List.range count).map (other.line floats sha256) =
        (List.range count).map (account.line floats sha256) :=
    List.map_congr_left fun index member =>
      same index (List.mem_range.1 member)
  exact congrArg List.flatten lines

theorem front_atTime (index : Nat) (time : CivilTime) :
    (account.atTime index time).front floats sha256 index =
      account.front floats sha256 index := by
  apply front_congr
  intro earlier before
  apply line_congr
  · rfl
  · exact Function.update_of_ne before.ne _ _

omit floats sha256 in
theorem resultAt_message {index : Nat} (before : index < 3) (message : Int) :
    { account with message := message }.resultAt index =
      account.resultAt index := by
  rcases index with _ | _ | _ | index
  · rfl
  · rfl
  · rfl
  · omega

/-- The records before the acceptance do not depend on the message. -/
theorem front_message (message : Int) :
    { account with message := message }.front floats sha256 3 =
      account.front floats sha256 3 := by
  apply front_congr
  intro index before
  exact
    line_congr floats sha256 account (resultAt_message account before message)
      rfl

end

end Account

/-! ## What the journal holds -/

section

variable (floats : FloatText) (sha256 : Sha256)
-- The message was sent, and it was accepted under an id.
variable (sent : Prop) (heard : Int → Prop)

/-- Whole records and a part of the next one. -/
def Begun (account : Account) (content : List UInt8) : Prop :=
  ∃ index part rest,
    index < 4 ∧ content = account.front floats sha256 index ++ part ∧
      account.line floats sha256 index = part ++ rest ∧
      (index = 3 → sent ∧ heard account.message)

/-- Such a part, and of the record of a failure all but the rest. -/
def Failing (account : Account) (content remaining : List UInt8) : Prop :=
  ∃ base written result time category,
    content = base ++ written ∧
      Begun floats sha256 sent heard account base ∧
      recordLine floats sha256 result time = written ++ remaining ∧
      result.errorCategory = some (some category)

/-- What is left where a run ends. -/
def Left (account : Account) (content : List UInt8) : Prop :=
  Begun floats sha256 sent heard account content ∨
    ∃ remaining, Failing floats sha256 sent heard account content remaining

/-- What the stage of the creator says about the bytes of the journal. -/
def Fits (account : Account) (process : Process) (content : List UInt8) :
    Prop :=
  match process.stage with
  | .starting | .admitted => False
  | .created | .guarded =>
      process.result = account.resultAt 0 ∧
        content = account.front floats sha256 1
  | .asking method =>
      process.result = account.asked method ∧
        content = account.front floats sha256 (recordsBefore method)
  | .awaiting method =>
      process.result = account.asked method ∧
        content = account.front floats sha256 (recordsBefore method) ∧
        (method = .sendMessage → sent)
  | .recording append =>
      match position append with
      | some index =>
          process.result = account.resultAt index ∧
            content = account.front floats sha256 index ∧
            (index = 3 → sent ∧ heard account.message) ∧ 0 < index
      | none =>
          process.result.transportAccepted = false ∧
            (∃ category,
              process.result.errorCategory = some (some category)) ∧
            Begun floats sha256 sent heard account content
  | .writing append remaining =>
      match position append with
      | some index =>
          process.result = account.resultAt index ∧
            (∃ written,
              content = account.front floats sha256 index ++ written ∧
                account.line floats sha256 index = written ++ remaining) ∧
            (index = 3 → sent ∧ heard account.message)
      | none =>
          process.result.transportAccepted = false ∧
            Failing floats sha256 sent heard account content remaining
  | .syncing append =>
      match position append with
      | some index =>
          process.result = account.resultAt index ∧
            content = account.front floats sha256 (index + 1) ∧
            (index = 3 → sent ∧ heard account.message)
      | none =>
          process.result.transportAccepted = false ∧
            Failing floats sha256 sent heard account content []
  | .returned =>
      Left floats sha256 sent heard account content ∧
        (process.result.transportAccepted = true →
          process.result = account.resultAt 3 ∧
            content = account.front floats sha256 4)
  | .raised | .killed => Left floats sha256 sent heard account content

/-- Some account fits the journal. -/
def Shows (process : Process) (content : List UInt8) : Prop :=
  ∃ account, isSha256 account.implementation = true ∧
    Fits floats sha256 sent heard account process content

end

/-! ## One step of the creator -/

section

variable {floats : FloatText} {sha256 : Sha256}
variable {sent later : Prop} {heard known : Int → Prop}
variable {account : Account} {process : Process} {content : List UInt8}
variable {remaining : List UInt8}

/-- Whole records are begun records. -/
theorem begun_front
    {index : Nat} (less : index < 4)
    (last : index = 3 → sent ∧ heard account.message) :
    Begun floats sha256 sent heard account
      (account.front floats sha256 (index + 1)) :=
  ⟨index, account.line floats sha256 index, [], less,
    account.front_succ floats sha256 index, (List.append_nil _).symm, last⟩

theorem begun_asked (method : Method) :
    Begun floats sha256 sent heard account
      (account.front floats sha256 (recordsBefore method)) := by
  cases method with
  | getMe => exact begun_front (by decide) (by rintro ⟨⟩)
  | getChat => exact begun_front (by decide) (by rintro ⟨⟩)
  | sendMessage => exact begun_front (by decide) (by rintro ⟨⟩)

theorem Begun.mono
    (begun : Begun floats sha256 sent heard account content)
    (sends : sent → later) (hears : ∀ message, heard message → known message) :
    Begun floats sha256 later known account content := by
  rcases begun with ⟨index, part, rest, less, split, whole, last⟩
  exact
    ⟨index, part, rest, less, split, whole,
      fun isLast => (last isLast).imp sends (hears _)⟩

theorem Failing.mono
    (failing : Failing floats sha256 sent heard account content remaining)
    (sends : sent → later) (hears : ∀ message, heard message → known message) :
    Failing floats sha256 later known account content remaining := by
  rcases failing with
    ⟨base, written, result, time, category, split, begun, line, error⟩
  exact
    ⟨base, written, result, time, category, split, begun.mono sends hears,
      line, error⟩

theorem Left.mono
    (left : Left floats sha256 sent heard account content)
    (sends : sent → later) (hears : ∀ message, heard message → known message) :
    Left floats sha256 later known account content :=
  left.imp (fun begun => begun.mono sends hears)
    fun ⟨remaining, failing⟩ => ⟨remaining, failing.mono sends hears⟩

/-- What is said of the past stays true. -/
theorem Fits.mono
    (fits : Fits floats sha256 sent heard account process content)
    (sends : sent → later) (hears : ∀ message, heard message → known message) :
    Fits floats sha256 later known account process content := by
  have last :
      ∀ {index : Nat}, (index = 3 → sent ∧ heard account.message) →
        index = 3 → later ∧ known account.message :=
    fun holds isLast => (holds isLast).imp sends (hears _)
  unfold Fits at fits ⊢
  split at fits
  · exact fits
  · exact fits
  · exact fits
  · exact fits
  · exact fits
  · exact ⟨fits.1, fits.2.1, fun isSend => sends (fits.2.2 isSend)⟩
  · split at fits
    · exact ⟨fits.1, fits.2.1, last fits.2.2.1, fits.2.2.2⟩
    · exact ⟨fits.1, fits.2.1, fits.2.2.mono sends hears⟩
  · split at fits
    · exact ⟨fits.1, fits.2.1, last fits.2.2⟩
    · exact ⟨fits.1, fits.2.mono sends hears⟩
  · split at fits
    · exact ⟨fits.1, fits.2.1, last fits.2.2⟩
    · exact ⟨fits.1, fits.2.mono sends hears⟩
  · exact ⟨fits.1.mono sends hears, fits.2⟩
  · exact fits.mono sends hears
  · exact fits.mono sends hears

/-- The stages of a run that has not failed. -/
def Sound (process : Process) : Prop :=
  match process.stage with
  | .created | .guarded | .asking _ | .awaiting _ => True
  | .recording append | .writing append _ | .syncing append =>
      (position append).isSome = true
  | _ => False

theorem position_lt
    {append : Append} {index : Nat} (found : position append = some index) :
    index < 4 := by
  cases append <;> cases found <;> decide

/-- The records of a run that has not failed. -/
theorem Fits.begun
    (fits : Fits floats sha256 sent heard account process content)
    (sound : Sound process) :
    Begun floats sha256 sent heard account content := by
  unfold Fits at fits
  unfold Sound at sound
  split at fits
  case h_1 stage | h_2 stage | h_10 stage | h_11 stage | h_12 stage =>
    rw [stage] at sound
    exact sound.elim
  case h_3 =>
    rw [fits.2]
    exact begun_front (by decide) (by rintro ⟨⟩)
  case h_4 =>
    rw [fits.2]
    exact begun_front (by decide) (by rintro ⟨⟩)
  case h_5 method _ =>
    rw [fits.2]
    exact begun_asked method
  case h_6 method _ =>
    rw [fits.2.1]
    exact begun_asked method
  case h_7 append stage =>
    split at fits
    · rename_i index found
      rcases fits with ⟨_, rfl, _, positive⟩
      have less := position_lt found
      obtain ⟨before, rfl⟩ : ∃ before, index = before + 1 :=
        ⟨index - 1, by omega⟩
      exact begun_front (by omega) (by omega)
    · rename_i absent
      rw [stage] at sound
      simp [absent] at sound
  case h_8 append remaining stage =>
    split at fits
    · rename_i index found
      rcases fits with ⟨_, ⟨written, split, line⟩, last⟩
      exact ⟨index, written, remaining, position_lt found, split, line, last⟩
    · rename_i absent
      rw [stage] at sound
      simp [absent] at sound
  case h_9 append stage =>
    split at fits
    · rename_i index found
      rw [fits.2.1]
      exact begun_front (position_lt found) fits.2.2
    · rename_i absent
      rw [stage] at sound
      simp [absent] at sound

/-- What is left when the run ends here. -/
theorem Fits.left
    (fits : Fits floats sha256 sent heard account process content) :
    Left floats sha256 sent heard account content := by
  by_cases sound : Sound process
  · exact Or.inl (fits.begun sound)
  · unfold Fits at fits
    unfold Sound at sound
    split at fits
    case h_1 | h_2 => exact fits.elim
    case h_3 stage | h_4 stage | h_5 stage | h_6 stage =>
      rw [stage] at sound
      exact absurd trivial sound
    case h_7 append stage =>
      split at fits
      · rename_i index found
        rw [stage] at sound
        simp [found] at sound
      · exact Or.inl fits.2.2
    case h_8 append remaining stage =>
      split at fits
      · rename_i index found
        rw [stage] at sound
        simp [found] at sound
      · exact Or.inr ⟨remaining, fits.2⟩
    case h_9 append stage =>
      split at fits
      · rename_i index found
        rw [stage] at sound
        simp [found] at sound
      · exact Or.inr ⟨[], fits.2⟩
    case h_10 => exact fits.1
    case h_11 | h_12 => exact fits

/-- Nothing is accepted before the acceptance is recorded. -/
theorem Fits.asking_rejected
    (fits : Fits floats sha256 sent heard account process content)
    (asking :
      process.stage = .guarded ∨
        ∃ method, process.stage = .asking method ∨
          process.stage = .awaiting method) :
    process.result.transportAccepted = false := by
  unfold Fits at fits
  rcases asking with stage | ⟨method, stage | stage⟩
  · rw [stage] at fits
    rw [fits.1]
    rfl
  · rw [stage] at fits
    rw [fits.1]
    cases method <;> rfl
  · rw [stage] at fits
    rw [fits.1]
    cases method <;> rfl

theorem fits_refused
    (begun : Begun floats sha256 sent heard account content)
    (rejected : process.result.transportAccepted = false)
    (category : String) :
    Fits floats sha256 sent heard account (process.refused category)
      content :=
  ⟨rejected, ⟨category, rfl⟩, begun⟩

theorem fits_faulted
    (begun : Begun floats sha256 sent heard account content) :
    Fits floats sha256 sent heard account process.faulted content :=
  ⟨rfl, ⟨_, rfl⟩, begun⟩

theorem fits_end
    (left : Left floats sha256 sent heard account content) {stage : Stage}
    (ended : stage = .raised ∨ stage = .killed) :
    Fits floats sha256 sent heard account (process.enter stage) content := by
  rcases ended with rfl | rfl
  · exact left
  · exact left

/-- A statement that raises. -/
theorem fits_refuse
    (fits : Fits floats sha256 sent heard account process content)
    {category : String} {next : Process}
    (refused : refuse process category = some next) :
    Fits floats sha256 sent heard account next content := by
  unfold refuse at refused
  split at refused
  case h_7 => cases refused
  case h_4 stage =>
    cases refused
    exact
      fits_refused (fits.begun (by unfold Sound; rw [stage]; trivial))
        (fits.asking_rejected (Or.inl stage)) category
  case h_5 method stage =>
    cases refused
    exact
      fits_refused (fits.begun (by unfold Sound; rw [stage]; trivial))
        (fits.asking_rejected (Or.inr ⟨method, Or.inl stage⟩)) category
  case h_6 method stage =>
    cases refused
    exact
      fits_refused (fits.begun (by unfold Sound; rw [stage]; trivial))
        (fits.asking_rejected (Or.inr ⟨method, Or.inr stage⟩)) category
  all_goals
    cases refused
    exact fits_end fits.left (Or.inl rfl)

/-- A failure is recorded with nothing accepted. -/
theorem Fits.failing_rejected
    (fits : Fits floats sha256 sent heard account process content)
    {shielded : Bool}
    (failing :
      process.stage = .recording (.failure shielded) ∨
        (∃ remaining,
          process.stage = .writing (.failure shielded) remaining) ∨
        process.stage = .syncing (.failure shielded)) :
    process.result.transportAccepted = false := by
  unfold Fits at fits
  rcases failing with stage | ⟨remaining, stage⟩ | stage
  · rw [stage] at fits
    exact fits.1
  · rw [stage] at fits
    exact fits.1
  · rw [stage] at fits
    exact fits.1

theorem fits_shielded
    (left : Left floats sha256 sent heard account content)
    (rejected : process.result.transportAccepted = false) :
    Fits floats sha256 sent heard account (process.enter .returned)
      content := by
  refine ⟨left, fun accepted => ?_⟩
  rw [show (process.enter .returned).result = process.result from rfl,
    rejected] at accepted
  cases accepted

/-- A statement that raises something else. -/
theorem fits_fault
    (fits : Fits floats sha256 sent heard account process content)
    {next : Process} (faulted : fault process = some next) :
    Fits floats sha256 sent heard account next content := by
  have recover :
      Sound process →
        Fits floats sha256 sent heard account process.faulted content :=
    fun sound => fits_faulted (fits.begun sound)
  have abandon :
      Fits floats sha256 sent heard account (process.enter .raised)
        content :=
    fits_end fits.left (Or.inl rfl)
  -- An append is on its way, in one of three stages.
  have append_faulted :
      ∀ append : Append,
        (process.stage = .recording append ∨
            (∃ remaining, process.stage = .writing append remaining) ∨
            process.stage = .syncing append) →
          (next = process.enter .raised ∨
              (append = .failure true ∧ next = process.enter .returned) ∨
              ((position append).isSome = true ∧
                next = process.faulted)) →
            Fits floats sha256 sent heard account next content := by
    intro append stage cases
    rcases cases with raised | ⟨shielded, returned⟩ | ⟨isRecord, recovered⟩
    · rw [raised]
      exact abandon
    · rw [shielded] at stage
      rw [returned]
      exact fits_shielded fits.left (fits.failing_rejected stage)
    · have sound : Sound process := by
        unfold Sound
        rcases stage with stage | ⟨remaining, stage⟩ | stage
        · rw [stage]
          exact isRecord
        · rw [stage]
          exact isRecord
        · rw [stage]
          exact isRecord
      rw [recovered]
      exact recover sound
  unfold fault at faulted
  split at faulted
  case h_1 | h_2 | h_3 =>
    cases faulted
    exact abandon
  case h_4 append stage =>
    apply append_faulted append (Or.inl stage)
    split at faulted <;> cases faulted <;> simp [position]
  case h_5 append remaining stage =>
    apply append_faulted append (Or.inr (Or.inl ⟨remaining, stage⟩))
    split at faulted <;> cases faulted <;> simp [position]
  case h_6 append stage =>
    apply append_faulted append (Or.inr (Or.inr stage))
    split at faulted <;> cases faulted <;> simp [position]
  case h_7 stage =>
    cases faulted
    exact recover (by unfold Sound; rw [stage]; trivial)
  case h_8 method stage =>
    cases faulted
    exact recover (by unfold Sound; rw [stage]; trivial)
  case h_9 method stage =>
    cases faulted
    exact recover (by unfold Sound; rw [stage]; trivial)
  all_goals cases faulted

/-- A request is answered. -/
theorem fits_answered
    (fits : Fits floats sha256 sent heard account process content)
    {method : Method} (awaiting : process.stage = .awaiting method)
    {answer : Members}
    (hears :
      method = .sendMessage →
        ∀ message, Process.sentMessage answer = some message →
          heard message) :
    ∃ other : Account, other.implementation = account.implementation ∧
      Fits floats sha256 sent heard other (process.answered answer method)
        content := by
  have begun :
      Begun floats sha256 sent heard account content :=
    fits.begun (by unfold Sound; rw [awaiting]; trivial)
  have refused :
      ∀ category,
        Fits floats sha256 sent heard account (process.refused category)
          content :=
    fits_refused begun (fits.asking_rejected (Or.inr ⟨method, Or.inr awaiting⟩))
  have faulted :
      Fits floats sha256 sent heard account process.faulted content :=
    fits_faulted begun
  unfold Fits at fits
  rw [awaiting] at fits
  rcases fits with ⟨result, split, sends⟩
  cases method with
  | getMe =>
      refine ⟨account, rfl, ?_⟩
      unfold Process.answered
      dsimp only
      split_ifs with expected
      · refine ⟨?_, split⟩
        show { process.result with getChat := 1 } = account.identified
        rw [result]
        rfl
      · exact refused _
  | getChat =>
      refine ⟨account, rfl, ?_⟩
      unfold Process.answered
      dsimp only
      split_ifs with expected
      · exact refused _
      · split
        · split_ifs with group
          · refine ⟨?_, split, by rintro ⟨⟩, by decide⟩
            show process.result.recorded "IDENTITY_VERIFIED" none =
              account.verified
            rw [result]
            rfl
          · exact refused _
        · exact faulted
        · exact faulted
        · exact refused _
  | sendMessage =>
      unfold Process.answered
      dsimp only
      split
      · rename_i identity found
        refine
          ⟨{ account with message := identity }, rfl, ?_, ?_, ?_, by decide⟩
        · show
            { process.result with
              transportAccepted := true
              messageId := some identity }.recorded
                "TRANSPORT_ACCEPTED" none =
              { account with message := identity }.accepted
          rw [result]
          rfl
        · rw [split]
          exact (account.front_message floats sha256 identity).symm
        · exact fun _ => ⟨sends rfl, hears rfl identity found⟩
      · exact ⟨account, rfl, refused _⟩

theorem resultAt_atTime (index other : Nat) (time : CivilTime) :
    (account.atTime index time).resultAt other = account.resultAt other := by
  rcases other with _ | _ | _ | other
  · rfl
  · rfl
  · rfl
  · rfl

/-- `record` opens the journal. -/
theorem fits_opened
    (fits : Fits floats sha256 sent heard account process content)
    {append : Append} (recording : process.stage = .recording append)
    (time : CivilTime) :
    ∃ other : Account, other.implementation = account.implementation ∧
      Fits floats sha256 sent heard other
        (process.enter
          (.writing append (recordLine floats sha256 process.result time)))
        content := by
  unfold Fits at fits
  rw [recording] at fits
  cases found : position append with
  | some index =>
      simp only [found] at fits
      rcases fits with ⟨result, split, last, positive⟩
      obtain ⟨before, rfl⟩ : ∃ before, index = before + 1 :=
        ⟨index - 1, by omega⟩
      refine ⟨account.atTime (before + 1) time, rfl, ?_⟩
      unfold Fits
      simp only [Process.enter, found]
      refine ⟨?_, ⟨[], ?_, ?_⟩, last⟩
      · rw [resultAt_atTime]
        exact result
      · rw [Account.front_atTime, List.append_nil]
        exact split
      · show recordLine floats sha256
            ((account.atTime (before + 1) time).resultAt (before + 1))
            ((account.atTime (before + 1) time).times (before + 1)) = _
        rw [resultAt_atTime, result]
        congr 1
        exact Function.update_self _ _ _
  | none =>
      simp only [found] at fits
      rcases fits with ⟨rejected, ⟨category, error⟩, begun⟩
      refine ⟨account, rfl, ?_⟩
      unfold Fits
      simp only [Process.enter, found]
      exact
        ⟨rejected, content, [], process.result, time, category,
          (List.append_nil _).symm, begun, rfl, error⟩

/-- Some bytes of the record of a failure reach the journal. -/
theorem Failing.write
    {written : List UInt8}
    (failing :
      Failing floats sha256 sent heard account content
        (written ++ remaining)) :
    Failing floats sha256 sent heard account (content ++ written)
      remaining := by
  rcases failing with
    ⟨base, earlier, result, time, category, rfl, begun, line, error⟩
  refine
    ⟨base, earlier ++ written, result, time, category,
      List.append_assoc _ _ _, begun, ?_, error⟩
  rw [line, List.append_assoc]

/-- Some bytes of a record reach the journal. -/
theorem fits_written
    (fits : Fits floats sha256 sent heard account process content)
    {append : Append} (writing : process.stage = .writing append remaining)
    (count : Nat) :
    Fits floats sha256 sent heard account
      (process.enter (.writing append (remaining.drop count)))
      (content ++ remaining.take count) := by
  unfold Fits at fits ⊢
  rw [writing] at fits
  cases found : position append with
  | some index =>
      simp only [Process.enter, found] at fits ⊢
      rcases fits with ⟨result, ⟨written, rfl, line⟩, last⟩
      refine
        ⟨result, ⟨written ++ remaining.take count,
          List.append_assoc _ _ _, ?_⟩, last⟩
      rw [List.append_assoc, List.take_append_drop]
      exact line
  | none =>
      simp only [Process.enter, found] at fits ⊢
      refine ⟨fits.1, Failing.write ?_⟩
      rw [List.take_append_drop]
      exact fits.2

/-- All bytes of a record have reached the journal. -/
theorem fits_closed
    (fits : Fits floats sha256 sent heard account process content)
    {append : Append} (writing : process.stage = .writing append remaining) :
    Fits floats sha256 sent heard account (process.enter (.syncing append))
      (content ++ remaining) := by
  unfold Fits at fits ⊢
  rw [writing] at fits
  cases found : position append with
  | some index =>
      simp only [Process.enter, found] at fits ⊢
      rcases fits with ⟨result, ⟨written, rfl, line⟩, last⟩
      refine ⟨result, ?_, last⟩
      rw [Account.front_succ, line, List.append_assoc]
  | none =>
      simp only [Process.enter, found] at fits ⊢
      refine ⟨fits.1, Failing.write ?_⟩
      rw [List.append_nil]
      exact fits.2

/-- The run goes on after a record. -/
theorem fits_appended
    (fits : Fits floats sha256 sent heard account process content)
    {append : Append} (syncing : process.stage = .syncing append) :
    Fits floats sha256 sent heard account (process.appended append)
      content := by
  have left := fits.left
  unfold Fits at fits
  rw [syncing] at fits
  cases append with
  | journal => exact ⟨fits.1, fits.2.1⟩
  | identity =>
      refine ⟨?_, fits.2.1, by rintro ⟨⟩, by decide⟩
      show { process.result with sendAttempts := 1 }.recorded
        "SEND_RESERVED" none = account.reserved
      rw [fits.1]
      rfl
  | reservation =>
      refine ⟨?_, fits.2.1⟩
      show { process.result with sendMessage := 1 } = account.sending
      rw [fits.1]
      rfl
  | acceptance => exact ⟨left, fun _ => ⟨fits.1, fits.2.1⟩⟩
  | failure shielded => exact fits_shielded left fits.1

variable {Pid : Type} {pid : Pid} {file : Journal Pid}
variable {outcome : Outcome Pid}

/-- The next statement of the creator. -/
theorem fits_proceed
    (fits : Fits floats sha256 sent heard account process file.content)
    (proceeded :
      proceed floats sha256 pid process (some file) = some outcome)
    (requests : outcome.request = some .sendMessage → sent) :
    ∃ next : Journal Pid, outcome.journal = some next ∧
      next.creator = file.creator ∧
      Fits floats sha256 sent heard account outcome.process
        next.content := by
  unfold proceed at proceeded
  split at proceeded
  case h_1 stage =>
    unfold Fits at fits
    rw [stage] at fits
    exact fits.elim
  case h_2 stage =>
    unfold Fits at fits
    rw [stage] at fits
    exact fits.elim
  case h_3 append remaining stage =>
    cases proceeded
    exact ⟨_, rfl, rfl, fits_closed fits stage⟩
  case h_4 append stage =>
    cases proceeded
    exact ⟨_, rfl, rfl, fits_appended fits stage⟩
  case h_5 stage =>
    cases proceeded
    unfold Fits at fits
    rw [stage] at fits
    exact ⟨file, rfl, rfl, fits⟩
  case h_6 stage =>
    cases proceeded
    unfold Fits at fits
    rw [stage] at fits
    refine ⟨file, rfl, rfl, ?_, fits.2⟩
    show { process.result with getMe := 1 } = account.asked .getMe
    rw [fits.1]
    rfl
  case h_7 method stage =>
    cases proceeded
    unfold Fits at fits
    rw [stage] at fits
    exact
      ⟨file, rfl, rfl, fits.1, fits.2,
        fun isSend => requests (congrArg some isSend)⟩
  all_goals cases proceeded

/-- Whatever happens to the creator, the journal holds what it should. -/
theorem fits_happen
    (fits : Fits floats sha256 sent heard account process file.content)
    {event : Event}
    (happened :
      happen floats sha256 pid process (some file) event = some outcome)
    (requests : outcome.request = some .sendMessage → sent)
    (hears :
      ∀ value message, event = .answer value →
        Process.sentMessage value = some message → heard message) :
    ∃ (next : Journal Pid) (other : Account),
      outcome.journal = some next ∧ next.creator = file.creator ∧
        other.implementation = account.implementation ∧
        Fits floats sha256 sent heard other outcome.process
          next.content := by
  cases event with
  | proceed =>
      have proceeded :
          proceed floats sha256 pid process (some file) = some outcome :=
        happened
      rcases fits_proceed fits proceeded requests with
        ⟨next, journal, creator, fits⟩
      exact ⟨next, account, journal, creator, rfl, fits⟩
  | observe time =>
      simp only [happen] at happened
      split at happened
      · next append stage =>
          cases happened
          rcases fits_opened fits stage time with ⟨other, same, fits⟩
          exact ⟨file, other, rfl, rfl, same, fits⟩
      · cases happened
  | write count =>
      simp only [happen] at happened
      split at happened
      · next append remaining stage =>
          cases happened
          exact
            ⟨_, account, rfl, rfl, rfl, fits_written fits stage count⟩
      · cases happened
  | answer value =>
      simp only [happen] at happened
      split at happened
      · next method stage =>
          cases happened
          rcases fits_answered fits stage
              (fun _ message found => hears value message rfl found) with
            ⟨other, same, fits⟩
          exact ⟨file, other, rfl, rfl, same, fits⟩
      · cases happened
  | refuse category =>
      rcases Option.map_eq_some_iff.1 happened with ⟨next, refused, rfl⟩
      exact ⟨file, account, rfl, rfl, rfl, fits_refuse fits refused⟩
  | raise =>
      rcases Option.map_eq_some_iff.1 happened with ⟨next, faulted, rfl⟩
      exact ⟨file, account, rfl, rfl, rfl, fits_fault fits faulted⟩
  | kill =>
      simp only [happen] at happened
      split at happened <;> cases happened
      exact
        ⟨file, account, rfl, rfl, rfl, fits_end fits.left (Or.inr rfl)⟩

end

/-! ## Runs -/

section

variable {floats : FloatText} {sha256 : Sha256} {Pid : Type}

/-- Telegram accepted a message that this process sent. -/
def Accepted (actions : List (Pid × Event)) (pid : Pid) (message : Int) :
    Prop :=
  ∃ value, (pid, Event.answer value) ∈ actions ∧
    Process.sentMessage value = some message

/-- The digests of the implementations are digests. -/
def Digested (state : State Pid) : Prop :=
  ∀ pid, isSha256 (state.processes pid).result.implementation = true

/-- A stage before the creation of the journal. -/
def Entering (stage : Stage) : Prop :=
  stage = .starting ∨ stage = .admitted

/-- What a run with these actions has left. -/
structure Recounted (floats : FloatText) (sha256 : Sha256)
    (actions : List (Pid × Event)) (state : State Pid) : Prop where
  consistent : Consistent floats sha256 state
  fresh :
    ∀ pid,
      Entering (state.processes pid).stage →
        ∃ implementation, isSha256 implementation = true ∧
          (state.processes pid).result = .initial implementation
  shown :
    ∀ pid file, state.journal = some file → file.creator = some pid →
      Shows floats sha256 ((pid, Method.sendMessage) ∈ state.requests)
        (Accepted actions pid) (state.processes pid) file.content

theorem Started.recounted
    {state : State Pid} (started : Started state)
    (digested : Digested state) :
    Recounted floats sha256 [] state where
  consistent := started.consistent
  fresh pid _ := by
    rcases started.fresh pid with ⟨authorized, implementation, fresh⟩
    have digest := digested pid
    rw [fresh] at digest ⊢
    exact ⟨implementation, digest, rfl⟩
  shown pid file present creator :=
    absurd ⟨file, present, creator⟩ (started.foreign pid)

theorem not_entering_appended (process : Process) (append : Append) :
    ¬ Entering (process.appended append).stage := by
  cases append <;>
    simp [Entering, Process.appended, Process.enter, Process.record]

theorem not_entering_answered
    (process : Process) (answer : Members) (method : Method) :
    ¬ Entering (process.answered answer method).stage := by
  unfold Process.answered
  split
  · split <;> simp [Entering, Process.refused, Process.record]
  · split
    · simp [Entering, Process.refused, Process.record]
    · split
      · split <;> simp [Entering, Process.refused, Process.record]
      · simp [Entering, Process.faulted, Process.record]
      · simp [Entering, Process.faulted, Process.record]
      · simp [Entering, Process.refused, Process.record]
  · split <;> simp [Entering, Process.refused, Process.record]

theorem not_entering_refuse
    {process next : Process} {category : String}
    (refused : refuse process category = some next) :
    ¬ Entering next.stage := by
  unfold refuse at refused
  split at refused <;> cases refused <;>
    simp [Entering, Process.enter, Process.refused, Process.record]

theorem not_entering_fault
    {process next : Process} (faulted : fault process = some next) :
    ¬ Entering next.stage := by
  unfold fault at faulted
  split at faulted
  case h_4 | h_5 | h_6 =>
    split at faulted <;> cases faulted <;>
      simp [Entering, Process.enter, Process.faulted, Process.record]
  all_goals
    cases faulted <;>
      simp [Entering, Process.enter, Process.faulted, Process.record]

/-- Only its first statement leaves a process before the creation. -/
theorem result_of_entering
    {pid : Pid} {process : Process} {journal : Option (Journal Pid)}
    {event : Event} {outcome : Outcome Pid}
    (happened :
      happen floats sha256 pid process journal event = some outcome)
    (entering : Entering outcome.process.stage) :
    process.stage = .starting ∧ outcome.process.result = process.result := by
  cases event with
  | proceed =>
      have proceeded :
          proceed floats sha256 pid process journal = some outcome :=
        happened
      unfold proceed at proceeded
      split at proceeded
      case h_1 stage =>
        split at proceeded <;> cases proceeded
        · exact ⟨stage, rfl⟩
        · simp [Entering, Process.enter] at entering
      case h_2 =>
        split at proceeded <;> cases proceeded <;>
          simp [Entering, Process.enter] at entering
      case h_4 append _ =>
        cases proceeded
        exact absurd entering (not_entering_appended process append)
      all_goals
        cases proceeded <;> simp [Entering, Process.enter] at entering
  | observe time =>
      simp only [happen] at happened
      split at happened <;> cases happened
      simp [Entering, Process.enter] at entering
  | write count =>
      simp only [happen] at happened
      split at happened <;> cases happened
      simp [Entering, Process.enter] at entering
  | answer value =>
      simp only [happen] at happened
      split at happened <;> cases happened
      exact absurd entering (not_entering_answered process value _)
  | refuse category =>
      rcases Option.map_eq_some_iff.1 happened with ⟨next, refused, rfl⟩
      exact absurd entering (not_entering_refuse refused)
  | raise =>
      rcases Option.map_eq_some_iff.1 happened with ⟨next, faulted, rfl⟩
      exact absurd entering (not_entering_fault faulted)
  | kill =>
      simp only [happen] at happened
      split at happened <;> cases happened
      simp [Entering, Process.enter] at entering

/-- A process that creates the journal has its first line to write. -/
theorem creates_of_happen
    {pid : Pid} {process : Process} {event : Event} {outcome : Outcome Pid}
    {file : Journal Pid}
    (happened :
      happen floats sha256 pid process none event = some outcome)
    (created : outcome.journal = some file) :
    process.stage = .admitted ∧ file = ⟨some pid, [], 0⟩ ∧
      outcome.process =
        process.enter
          (.writing .journal (openingLine floats sha256 process.result)) := by
  cases event with
  | proceed =>
      have proceeded :
          proceed floats sha256 pid process none = some outcome := happened
      unfold proceed at proceeded
      split at proceeded
      case h_1 => split at proceeded <;> cases proceeded <;> cases created
      case h_2 stage =>
        cases proceeded
        cases created
        exact ⟨stage, rfl, rfl⟩
      all_goals cases proceeded <;> cases created
  | observe time =>
      simp only [happen] at happened
      split at happened <;> cases happened
      cases created
  | write count =>
      simp only [happen] at happened
      split at happened <;> cases happened
      cases created
  | answer value =>
      simp only [happen] at happened
      split at happened <;> cases happened
      cases created
  | refuse category =>
      rcases Option.map_eq_some_iff.1 happened with ⟨next, _, rfl⟩
      cases created
  | raise =>
      rcases Option.map_eq_some_iff.1 happened with ⟨next, _, rfl⟩
      cases created
  | kill =>
      simp only [happen] at happened
      split at happened <;> cases happened
      cases created

theorem Accepted.later
    {past : List (Pid × Event)} {pid : Pid} {message : Int}
    (accepted : Accepted past pid message) (action : Pid × Event) :
    Accepted (past ++ [action]) pid message := by
  rcases accepted with ⟨value, member, found⟩
  exact ⟨value, List.mem_append_left _ member, found⟩

/-- The journal is created and its first line is to be written. -/
theorem shows_created
    {sent : Prop} {heard : Int → Prop} {process : Process}
    {implementation : String} (digest : isSha256 implementation = true)
    (result : process.result = .initial implementation) :
    Shows floats sha256 sent heard
      (process.enter
        (.writing .journal (openingLine floats sha256 process.result)))
      [] := by
  refine ⟨⟨implementation, fun _ => leapDay, 0⟩, digest, ?_⟩
  unfold Fits
  simp only [Process.enter, position]
  refine ⟨result, ⟨[], rfl, ?_⟩, by rintro ⟨⟩⟩
  rw [result, List.nil_append]
  rfl

variable [DecidableEq Pid]

/-- A step of another process leaves the journal of this one. -/
theorem journal_of_other
    {before after : State Pid} {action : Pid × Event}
    (consistent : Consistent floats sha256 before)
    (taken : Qualification.step floats sha256 before action = some after)
    {pid : Pid} {file : Journal Pid} (present : after.journal = some file)
    (creator : file.creator = some pid) (other : pid ≠ action.1) :
    before.journal = some file := by
  rcases step_moves taken with ⟨outcome, moves, journal, _, _⟩
  have apart : ¬ CreatedBy action.1 outcome.journal := by
    intro created
    rw [← journal] at created
    exact other (CreatedBy.unique created ⟨file, present, creator⟩)
  rw [journal] at present
  rcases moves.keeps_journal with same | absent | acting
  · rw [← same]
    exact present
  · rw [absent] at moves
    cases moves with
    | creates => exact absurd ⟨_, rfl, rfl⟩ apart
    | _ => cases present
  · exact absurd ((consistent.owned _ acting).extend moves.grows) apart

theorem Recounted.step
    {past : List (Pid × Event)} {before after : State Pid}
    {action : Pid × Event}
    (recounted : Recounted floats sha256 past before)
    (taken : Qualification.step floats sha256 before action = some after) :
    Recounted floats sha256 (past ++ [action]) after := by
  have consistent := recounted.consistent.step taken
  have hears :
      ∀ pid message, Accepted past pid message →
        Accepted (past ++ [action]) pid message :=
    fun _ _ accepted => accepted.later action
  have moved := Option.map_eq_some_iff.1 taken
  rcases moved with ⟨outcome, happened, same⟩
  have processes :
      after.processes =
        Function.update before.processes action.1 outcome.process := by
    rw [← same]
  have journal : after.journal = outcome.journal := by rw [← same]
  have requests :
      after.requests =
        before.requests ++
          (outcome.request.map fun method => (action.1, method)).toList := by
    rw [← same]
  have sends :
      ∀ pid, (pid, Method.sendMessage) ∈ before.requests →
        (pid, Method.sendMessage) ∈ after.requests := by
    intro pid member
    rw [requests]
    exact List.mem_append_left _ member
  refine ⟨consistent, ?_, ?_⟩
  · intro pid entering
    rw [processes] at entering ⊢
    by_cases acting : pid = action.1
    · subst acting
      rw [Function.update_self] at entering ⊢
      rcases result_of_entering happened entering with ⟨stage, result⟩
      rw [result]
      exact recounted.fresh _ (Or.inl stage)
    · rw [Function.update_of_ne acting] at entering ⊢
      exact recounted.fresh pid entering
  · intro pid file present creator
    by_cases acting : pid = action.1
    · subst acting
      rw [processes, Function.update_self]
      rw [journal] at present
      cases earlier : before.journal with
      | none =>
          rw [earlier] at happened
          rcases creates_of_happen happened present with
            ⟨stage, rfl, process⟩
          rcases recounted.fresh _ (Or.inr stage) with
            ⟨implementation, digest, result⟩
          rw [process]
          exact shows_created digest result
      | some first =>
          rw [earlier] at happened
          have kept : first.creator = some action.1 := by
            rcases (grows_of_step taken) first earlier with
              ⟨last, found, sameCreator, _⟩
            rw [journal, present] at found
            cases found
            exact sameCreator.symm.trans creator
          rcases recounted.shown _ first earlier kept with
            ⟨account, digest, fits⟩
          rcases
              fits_happen (fits.mono (sends action.1) (hears action.1))
                happened
                (fun issued => by
                  rw [requests, issued]
                  exact
                    List.mem_append_right _ List.mem_cons_self)
                (fun value message isAnswer found =>
                  ⟨value,
                    List.mem_append_right _ (by
                      rw [← isAnswer]
                      exact List.mem_cons_self),
                    found⟩) with
            ⟨next, other, left, _, implementation, fits⟩
          rw [present] at left
          cases left
          exact ⟨other, implementation ▸ digest, fits⟩
    · rw [processes, Function.update_of_ne acting]
      have earlier :=
        journal_of_other recounted.consistent taken present creator acting
      rcases recounted.shown pid file earlier creator with
        ⟨account, digest, fits⟩
      exact ⟨account, digest, fits.mono (sends pid) (hears pid)⟩

/-- Every run recounts what it has left. -/
theorem recounted_of_perform
    {start state : State Pid} (started : Started start)
    (digested : Digested start) {actions : List (Pid × Event)}
    (run :
      perform (Qualification.step floats sha256) start actions =
        some state) :
    Recounted floats sha256 actions state :=
  invariant_of_perform (Recounted floats sha256)
    (Started.recounted started digested)
    (fun _ _ _ _ recounted taken => recounted.step taken) run

end

/-! ## The journal of a process that has returned -/

section

variable {floats : FloatText} {sha256 : Sha256} {Pid : Type} {pid : Pid}
variable {process : Process} {journal : Option (Journal Pid)}
variable {event : Event} {outcome : Outcome Pid}

/-- Only between the creation of the journal and its end does a process change
its result. -/
theorem result_of_not_owns
    (idle : process.stage.owns = false)
    (happened :
      happen floats sha256 pid process journal event = some outcome) :
    outcome.process.result = process.result := by
  cases event with
  | proceed =>
      have proceeded :
          proceed floats sha256 pid process journal = some outcome :=
        happened
      unfold proceed at proceeded
      split at proceeded
      case h_1 => split at proceeded <;> cases proceeded <;> rfl
      case h_2 => split at proceeded <;> cases proceeded <;> rfl
      case h_3 stage | h_4 stage | h_5 stage | h_6 stage | h_7 stage =>
        rw [stage] at idle
        cases idle
      all_goals cases proceeded
  | observe time =>
      simp only [happen] at happened
      split at happened
      · next stage =>
          rw [stage] at idle
          cases idle
      · cases happened
  | write count =>
      simp only [happen] at happened
      split at happened
      · next stage =>
          rw [stage] at idle
          cases idle
      · cases happened
  | answer value =>
      simp only [happen] at happened
      split at happened
      · next stage =>
          rw [stage] at idle
          cases idle
      · cases happened
  | refuse category =>
      rcases Option.map_eq_some_iff.1 happened with ⟨next, refused, rfl⟩
      unfold refuse at refused
      split at refused
      case h_1 | h_2 | h_3 => cases refused; rfl
      case h_4 stage | h_5 stage | h_6 stage =>
        rw [stage] at idle
        cases idle
      case h_7 => cases refused
  | raise =>
      rcases Option.map_eq_some_iff.1 happened with ⟨next, faulted, rfl⟩
      unfold fault at faulted
      split at faulted
      case h_1 | h_2 | h_3 => cases faulted; rfl
      case h_4 stage | h_5 stage | h_6 stage | h_7 stage | h_8 stage |
        h_9 stage =>
        rw [stage] at idle
        cases idle
      all_goals cases faulted
  | kill =>
      simp only [happen] at happened
      split at happened <;> cases happened
      rfl

/-- Nothing happens to a process that has returned. -/
theorem happen_of_returned (returned : process.stage = .returned) :
    happen floats sha256 pid process journal event = none := by
  cases event <;> simp [happen, proceed, refuse, fault, returned]

variable [DecidableEq Pid] {start state later : State Pid}
variable {file : Journal Pid}

/-- Where no journal was there before, whatever is there was created by a
process. -/
theorem created_of_step
    {before after : State Pid} {action : Pid × Event}
    (taken : Qualification.step floats sha256 before action = some after)
    (known :
      before.journal = none ∨ ∃ pid, CreatedBy pid before.journal) :
    after.journal = none ∨ ∃ pid, CreatedBy pid after.journal := by
  rcases known with absent | ⟨pid, created⟩
  · rcases step_moves taken with ⟨outcome, moves, journal, _, _⟩
    rw [absent] at moves
    rw [journal]
    cases moves with
    | creates => exact Or.inr ⟨action.1, _, rfl, rfl⟩
    | _ => exact Or.inl rfl
  · exact Or.inr ⟨pid, created.extend (grows_of_step taken)⟩

/-- A process whose message was accepted has created the journal. -/
theorem created_of_transportAccepted
    (started : Started start)
    (run : Reaches (Qualification.step floats sha256) start state)
    (accepted : (state.processes pid).result.transportAccepted = true) :
    CreatedBy pid state.journal := by
  have held :
      Consistent floats sha256 state ∧
        ∀ pid, (state.processes pid).result.transportAccepted = true →
          CreatedBy pid state.journal := by
    refine run.invariant
      (fun state =>
        Consistent floats sha256 state ∧
          ∀ pid, (state.processes pid).result.transportAccepted = true →
            CreatedBy pid state.journal) ⟨started.consistent, ?_⟩ ?_
    · intro pid accepted
      rcases started.fresh pid with ⟨authorized, implementation, fresh⟩
      rw [fresh] at accepted
      cases accepted
    · rintro before action after ⟨consistent, created⟩ taken
      refine ⟨consistent.step taken, fun pid accepted => ?_⟩
      have grows := grows_of_step taken
      rcases Option.map_eq_some_iff.1 taken with ⟨outcome, happened, same⟩
      have processes :
          after.processes =
            Function.update before.processes action.1 outcome.process := by
        rw [← same]
      rw [processes] at accepted
      by_cases acting : pid = action.1
      · subst acting
        rw [Function.update_self] at accepted
        cases owns : (before.processes action.1).stage.owns with
        | true => exact (consistent.owned _ owns).extend grows
        | false =>
            rw [result_of_not_owns owns happened] at accepted
            exact (created _ accepted).extend grows
      · rw [Function.update_of_ne acting] at accepted
        exact (created pid accepted).extend grows
  exact held.2 pid accepted

/-- The journal of a process that has returned stays as it is. -/
theorem journal_of_returned
    (consistent : Consistent floats sha256 state)
    (present : state.journal = some file) (creator : file.creator = some pid)
    (returned : (state.processes pid).stage = .returned)
    (rest : Reaches (Qualification.step floats sha256) state later) :
    later.journal = some file := by
  have held :
      Consistent floats sha256 later ∧
        (later.processes pid).stage = .returned ∧
          later.journal = some file := by
    refine rest.invariant
      (fun later =>
        Consistent floats sha256 later ∧
          (later.processes pid).stage = .returned ∧
            later.journal = some file) ⟨consistent, returned, present⟩ ?_
    rintro before action after ⟨consistent, returned, present⟩ taken
    have different : pid ≠ action.1 := by
      rintro rfl
      rcases Option.map_eq_some_iff.1 taken with ⟨outcome, happened, _⟩
      rw [happen_of_returned returned] at happened
      cases happened
    rcases step_moves taken with ⟨outcome, moves, journal, _, processes⟩
    refine ⟨consistent.step taken, ?_, ?_⟩
    · rw [processes, Function.update_of_ne different]
      exact returned
    · rw [journal]
      rcases moves.keeps_journal with same | absent | acting
      · exact same.trans present
      · cases present.symm.trans absent
      · exact
          absurd
            ((consistent.owned _ acting).unique ⟨file, present, creator⟩)
            different
  exact held.2.2

end

/-! ## A run in which nothing fails -/

/-- The answers of Telegram about the bot, about the chat and to the message. -/
def goodAnswer (message : Int) : Method → Members
  | .getMe => [("is_bot", .bool true), ("username", .text expectedBot)]
  | .getChat => [("id", .int expectedTestChat), ("type", .text "group")]
  | .sendMessage =>
      [("chat", .object [("id", .int expectedTestChat)]),
        ("message_id", .int message)]

/-- A call that is answered. -/
def calling (message : Int) (method : Method) : List Event :=
  [.proceed, .answer (goodAnswer message method)]

/-- A record at its time. -/
def recordingAt (time : CivilTime) : List Event :=
  [.observe time, .proceed, .proceed]

/-- The statements of a run in which nothing fails. -/
def undisturbed (account : Account) : List Event :=
  List.replicate 6 .proceed ++ calling account.message .getMe ++
    calling account.message .getChat ++ recordingAt (account.times 1) ++
    recordingAt (account.times 2) ++ calling account.message .sendMessage ++
    recordingAt (account.times 3)

variable {floats : FloatText} {sha256 : Sha256}

/-- A process that acts alone. -/
def actAlone (floats : FloatText) (sha256 : Sha256) {Pid : Type} (pid : Pid)
    (now : Process × Option (Journal Pid)) (event : Event) :
    Option (Process × Option (Journal Pid)) :=
  (happen floats sha256 pid now.1 now.2 event).map fun outcome =>
    (outcome.process, outcome.journal)

theorem answered_getMe (process : Process) (message : Int) :
    process.answered (goodAnswer message .getMe) .getMe =
      { process with
          result := { process.result with getChat := 1 }
          stage := .asking .getChat } := by
  rfl

theorem answered_getChat (process : Process) (message : Int) :
    process.answered (goodAnswer message .getChat) .getChat =
      process.record .identity "IDENTITY_VERIFIED" none := by
  rfl

theorem answered_sendMessage
    (process : Process) {message : Int} (positive : 0 < message) :
    process.answered (goodAnswer message .sendMessage) .sendMessage =
      { process with
          result :=
            { process.result with
              transportAccepted := true
              messageId := some message } }.record
            .acceptance "TRANSPORT_ACCEPTED" none := by
  have found :
      Process.sentMessage (goodAnswer message .sendMessage) =
        some message := by
    have accepted :
        (Process.isTestChat [("id", .int expectedTestChat)] &&
            decide (0 < message)) =
          true := by
      rw [decide_eq_true positive]
      rfl
    exact if_pos accepted
  unfold Process.answered
  simp only [found]



section
variable {Pid : Type} {pid : Pid} {process : Process} {file : Journal Pid}

/-- A record that reaches the disk. -/
theorem actAlone_recordingAt
    {append : Append} (recording : process.stage = .recording append)
    (time : CivilTime) :
    perform (actAlone floats sha256 pid) (process, some file)
        (recordingAt time) =
      some
        (process.appended append,
          some
            (file.append
              (recordLine floats sha256 process.result time)).sync) := by
  have appended :
      (process.enter (.syncing append)).appended append =
        process.appended append := by
    cases append <;> rfl
  rw [← appended]
  simp only [recordingAt, perform, actAlone, happen, proceed, recording,
    Process.enter, Option.map_some, Option.bind_some]

/-- A call that is answered as it should be. -/
theorem actAlone_calling
    {method : Method} (asking : process.stage = .asking method)
    (message : Int) :
    perform (actAlone floats sha256 pid) (process, some file)
        (calling message method) =
      some
        (process.answered (goodAnswer message method) method,
          some file) := by
  have answered :
      (process.enter (.awaiting method)).answered
          (goodAnswer message method) method =
        process.answered (goodAnswer message method) method := by
    cases method
    · rfl
    · rfl
    · unfold Process.answered
      split <;> rfl
  rw [← answered]
  simp only [calling, perform, actAlone, happen, proceed, asking,
    Process.enter, Option.map_some, Option.bind_some]

/-- The creation of the journal. -/
theorem actAlone_creating (implementation : String) :
    perform (actAlone floats sha256 pid) (.fresh true implementation, none)
        (List.replicate 6 .proceed) =
      some
        (⟨true, { Result.initial implementation with getMe := 1 }, false,
            .asking .getMe⟩,
          some
            (Journal.append
              (openingLine floats sha256 (.initial implementation))
              ⟨some pid, [], 0⟩).sync) := by
  simp only [List.replicate, perform, actAlone, happen, proceed,
    Process.fresh, Process.enter, Process.appended, Option.map_some,
    Option.bind_some, if_true]

/-- A run in which nothing fails leaves the four records and returns. -/
theorem actAlone_undisturbed
    (account : Account) (positive : 0 < account.message) :
    perform (actAlone floats sha256 pid)
        (.fresh true account.implementation, none) (undisturbed account) =
      some
        (⟨true, account.accepted, true, .returned⟩,
          some
            ⟨some pid, account.front floats sha256 4,
              (account.front floats sha256 4).length⟩) := by
  have created :=
    @actAlone_creating floats sha256 Pid pid account.implementation
  have identified :=
    (perform_append _ created).trans
      (actAlone_calling rfl account.message)
  rw [answered_getMe] at identified
  have known :=
    (perform_append _ identified).trans
      (actAlone_calling rfl account.message)
  rw [answered_getChat] at known
  have verified :=
    (perform_append _ known).trans
      (actAlone_recordingAt rfl (account.times 1))
  have reserved :=
    (perform_append _ verified).trans
      (actAlone_recordingAt rfl (account.times 2))
  have sent :=
    (perform_append _ reserved).trans
      (actAlone_calling rfl account.message)
  rw [answered_sendMessage _ positive] at sent
  have accepted :=
    (perform_append _ sent).trans
      (actAlone_recordingAt rfl (account.times 3))
  have content :
      account.front floats sha256 4 =
        [] ++ account.line floats sha256 0 ++ account.line floats sha256 1 ++
          account.line floats sha256 2 ++ account.line floats sha256 3 := by
    rw [account.front_succ, account.front_succ, account.front_succ,
      account.front_succ]
    rfl
  rw [content]
  exact accepted

variable [DecidableEq Pid]

theorem perform_of_actAlone
    {events : List Event} {state : State Pid}
    {journal : Option (Journal Pid)}
    (alone :
      perform (actAlone floats sha256 pid)
          (state.processes pid, state.journal) events =
        some (process, journal)) :
    ∃ next,
      perform (Qualification.step floats sha256) state
          (events.map fun event => (pid, event)) =
        some next ∧
        next.processes pid = process ∧ next.journal = journal := by
  induction events generalizing state with
  | nil =>
      cases alone
      exact ⟨state, rfl, rfl, rfl⟩
  | cons event events induction =>
      rcases Option.bind_eq_some_iff.1 alone with ⟨middle, acted, rest⟩
      rcases Option.map_eq_some_iff.1 acted with ⟨outcome, happened, rfl⟩
      let after : State Pid :=
        { journal := outcome.journal
          requests :=
            state.requests ++
              (outcome.request.map fun method => (pid, method)).toList
          processes := Function.update state.processes pid outcome.process }
      have taken :
          Qualification.step floats sha256 state (pid, event) =
            some after := by
        show (happen floats sha256 pid _ _ event).map _ = _
        rw [happened]
        rfl
      have own : after.processes pid = outcome.process :=
        Function.update_self ..
      rw [← own] at rest
      rcases induction rest with ⟨next, performed, found⟩
      refine ⟨next, ?_, found⟩
      rw [List.map_cons, perform, taken]
      exact performed

/-- A process that nothing disturbs sends the message and returns. -/
theorem qualifies_undisturbed
    {state : State Pid} {account : Account} (positive : 0 < account.message)
    (fresh : state.processes pid = .fresh true account.implementation)
    (absent : state.journal = none) :
    ∃ next,
      perform (Qualification.step floats sha256) state
          ((undisturbed account).map fun event => (pid, event)) =
        some next ∧
        next.processes pid = ⟨true, account.accepted, true, .returned⟩ ∧
        next.journal =
          some
            ⟨some pid, account.front floats sha256 4,
              (account.front floats sha256 4).length⟩ := by
  apply perform_of_actAlone
  rw [fresh, absent]
  exact actAlone_undisturbed account positive

end

end KairosDeploy.Alerts.JournalRecords
