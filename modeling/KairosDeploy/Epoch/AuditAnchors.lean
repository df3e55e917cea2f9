import KairosDeploy.Library.Refusal
import KairosDeploy.Epoch.Contract

/-!
# Reading the five chains of the audit table

`anchors` and `boot_history_snapshot` read the same aggregates of
`event_audit`: for each symbol the number of rows, the number of distinct open
times and the smallest and largest open time.  This module holds these
aggregates, `anchors` itself, and what one more row does to them.
-/

namespace KairosDeploy.Epoch.AuditAnchors

open KairosDeploy.Library.Refusal
open KairosDeploy.Epoch.Contract

/-! ## Aggregates of one symbol -/

/-- The rows of one symbol: its topic, its source and its symbol. -/
def symbolRows (audit : List AuditRow) (symbol : String) : List AuditRow :=
  audit.filter fun row =>
    row.topic = topic ∧ row.source = source ∧
      row.payload.symbol = some symbol

theorem mem_symbolRows_iff
    {audit : List AuditRow} {symbol : String} {row : AuditRow} :
    row ∈ symbolRows audit symbol ↔
      row ∈ audit ∧ row.topic = topic ∧ row.source = source ∧
        row.payload.symbol = some symbol := by
  simp [symbolRows]

/-- The values of `open_time_ms`.  Aggregates skip a missing value. -/
def openTimes (rows : List AuditRow) : List Int :=
  rows.filterMap fun row => row.payload.openTimeMs

/-- `n`, `u`, `lo` and `hi` of one symbol. -/
structure ChainStats where
  n : Nat
  u : Nat
  lo : Option Int
  hi : Option Int
deriving DecidableEq, Repr

/-- `count(*)`, `count(DISTINCT ..)`, `min(..)` and `max(..)`. -/
def chainStats (audit : List AuditRow) (symbol : String) : ChainStats where
  n := (symbolRows audit symbol).length
  u := (openTimes (symbolRows audit symbol)).dedup.length
  lo := (openTimes (symbolRows audit symbol)).min?
  hi := (openTimes (symbolRows audit symbol)).max?

/-- The newest open time of one symbol. -/
def lastOpen (audit : List AuditRow) (symbol : String) : Option Int :=
  (chainStats audit symbol).hi

theorem le_lastOpen
    {audit : List AuditRow} {symbol : String} {row : AuditRow}
    {openTime newest : Int}
    (found : lastOpen audit symbol = some newest)
    (member : row ∈ symbolRows audit symbol)
    (opened : row.payload.openTimeMs = some openTime) :
    openTime ≤ newest := by
  apply (List.max?_eq_some_iff.1 found).2
  exact List.mem_filterMap.2 ⟨row, member, opened⟩

/-- A newer row becomes the newest one. -/
theorem lastOpen_append_newer
    {audit : List AuditRow} {symbol : String} {row : AuditRow}
    {newest openTime : Int}
    (found : lastOpen audit symbol = some newest)
    (newer : newest ≤ openTime)
    (member : row ∈ symbolRows [row] symbol)
    (opened : row.payload.openTimeMs = some openTime) :
    lastOpen (audit ++ [row]) symbol = some openTime := by
  have kept := (mem_symbolRows_iff.1 member).2
  have times :
      openTimes (symbolRows (audit ++ [row]) symbol) =
        openTimes (symbolRows audit symbol) ++ [openTime] := by
    simp [openTimes, symbolRows, kept, opened]
  change (openTimes (symbolRows (audit ++ [row]) symbol)).max? = _
  rw [times, List.max?_eq_some_iff]
  refine ⟨by simp, ?_⟩
  intro time timeMember
  rcases List.mem_append.1 timeMember with old | new
  · exact ((List.max?_eq_some_iff.1 found).2 time old).trans newer
  · exact (List.mem_singleton.1 new).le

/-- Rows of other symbols do not matter. -/
theorem lastOpen_append_other
    {audit : List AuditRow} {symbol : String} {row : AuditRow}
    (other : row.payload.symbol ≠ some symbol) :
    lastOpen (audit ++ [row]) symbol = lastOpen audit symbol := by
  have same : symbolRows (audit ++ [row]) symbol = symbolRows audit symbol := by
    simp [symbolRows, other]
  simp [lastOpen, chainStats, same]

/-! ## Anchors -/

/--
`ClosedBarEventV1.model_validate`.  An event it returns carries the payload's
symbol and open time, opens on a minute and closes at the end of it.
-/
structure BarModel where
  modelValidate : Payload → Option ClosedBarEvent
  symbol_eq :
    ∀ payload event,
      modelValidate payload = some event →
        payload.symbol = some event.symbol
  openTime_eq :
    ∀ payload event,
      modelValidate payload = some event →
        payload.openTimeMs = some event.openTimeMs
  closeTime_eq :
    ∀ payload event,
      modelValidate payload = some event →
        event.closeTimeMs = event.openTimeMs + minute - 1
  aligned :
    ∀ payload event,
      modelValidate payload = some event → minute ∣ event.openTimeMs

/-- A model that accepts exactly the complete bars of one minute. -/
def minuteBarModel : BarModel where
  modelValidate payload :=
    match payload with
    | ⟨some messageId, some symbol, some openTime, some closeTime, rest⟩ =>
        if minute ∣ openTime ∧ closeTime = openTime + minute - 1 then
          some ⟨messageId, symbol, openTime, closeTime, rest⟩
        else
          none
    | _ => none
  symbol_eq := by
    intro payload event validated
    split at validated
    · split_ifs at validated
      cases validated
      rfl
    · cases validated
  openTime_eq := by
    intro payload event validated
    split at validated
    · split_ifs at validated
      cases validated
      rfl
    · cases validated
  closeTime_eq := by
    intro payload event validated
    split at validated
    · split_ifs at validated with bar
      cases validated
      exact bar.2
    · cases validated
  aligned := by
    intro payload event validated
    split at validated
    · split_ifs at validated with bar
      cases validated
      exact bar.1
    · cases validated

/--
The payload that `ANCHORS_SQL` joins to a symbol.  Once all open times differ,
the row of the largest one is unique.
-/
def latestPayload (audit : List AuditRow) (symbol : String) :
    Option Payload :=
  ((symbolRows audit symbol).find? fun row =>
    row.payload.openTimeMs = lastOpen audit symbol).map AuditRow.payload

/-- The test of `anchors` on the summary of one chain. -/
def ChainStats.contiguous (stats : ChainStats) : Prop :=
  stats.n ≠ 0 ∧ stats.n = stats.u ∧
    stats.hi.getD 0 - stats.lo.getD 0 = ((stats.n : Int) - 1) * minute

instance (stats : ChainStats) : Decidable stats.contiguous :=
  inferInstanceAs (Decidable (_ ∧ _))

/-- The event of one row of the result of `ANCHORS_SQL`. -/
def anchorEvent
    (model : BarModel) (audit : List AuditRow) (symbol : String) :
    Except EpochError ClosedBarEvent :=
  match (latestPayload audit symbol).bind model.modelValidate with
  | none => .error ⟨"ValidationError"⟩
  | some event =>
      if event.symbol ≠ symbol then
        .error ⟨"FIVE_UNIQUE_CONTIGUOUS_CHAINS_REQUIRED"⟩
      else
        .ok event

/--
`anchors`: the newest event of each symbol, once the summaries of all five
chains are contiguous.  A symbol without rows has no summary.
-/
def anchors (model : BarModel) (audit : List AuditRow) :
    Except EpochError (Dict ClosedBarEvent) := do
  refuseIf (∃ symbol ∈ symbols, (chainStats audit symbol).n = 0)
    ⟨"FIVE_UNIQUE_CONTIGUOUS_CHAINS_REQUIRED"⟩
  refuseIf (∃ symbol ∈ symbols, ¬ (chainStats audit symbol).contiguous)
    ⟨"FIVE_UNIQUE_CONTIGUOUS_CHAINS_REQUIRED"⟩
  symbols.foldlM
    (fun result symbol => do
      let event ← anchorEvent model audit symbol
      return result.insert symbol event)
    ∅

/-- An anchor is the newest bar of its symbol. -/
theorem anchorEvent_eq_ok
    {model : BarModel} {audit : List AuditRow} {symbol : String}
    {event : ClosedBarEvent}
    (read : anchorEvent model audit symbol = .ok event) :
    lastOpen audit symbol = some event.openTimeMs ∧
      event.watermark = event.openTimeMs + minute ∧
      minute ∣ event.openTimeMs := by
  unfold anchorEvent at read
  split at read
  · cases read
  · rename_i validated found
    split_ifs at read with sameSymbol
    cases read
    rcases Option.bind_eq_some_iff.1 found with ⟨payload, latest, valid⟩
    rcases Option.map_eq_some_iff.1 latest with ⟨row, rowFound, rfl⟩
    have newest := List.find?_some rowFound
    rw [decide_eq_true_eq] at newest
    refine ⟨?_, ?_, model.aligned _ _ valid⟩
    · rw [← newest]
      exact model.openTime_eq _ _ valid
    · rw [ClosedBarEvent.watermark, model.closeTime_eq _ _ valid]
      ring

/-- Reading a value per key into a dictionary. -/
theorem foldlM_insert_eq_ok
    {Error Value : Type} {read : String → Except Error Value}
    {keys : List String} {start result : Dict Value}
    (succeeded :
      keys.foldlM
          (fun result key => do
            let value ← read key
            return result.insert key value)
          start =
        .ok result) :
    (∀ key, key ∈ result ↔ key ∈ keys ∨ key ∈ start) ∧
      (∀ key ∈ keys,
        ∃ value, read key = .ok value ∧ result.lookup key = some value) ∧
      ∀ key, key ∉ keys → result.lookup key = start.lookup key := by
  induction keys generalizing start with
  | nil =>
      rw [List.foldlM_nil, pure_eq_ok_iff] at succeeded
      subst result
      simp
  | cons head rest induction =>
      simp only [List.foldlM_cons, bind_eq_ok_iff, pure_eq_ok_iff]
        at succeeded
      rcases succeeded with ⟨_, ⟨value, headRead, rfl⟩, tail⟩
      rcases induction tail with ⟨members, reads, others⟩
      refine ⟨?_, ?_, ?_⟩
      · intro key
        rw [members, AList.mem_insert, List.mem_cons]
        tauto
      · intro key keyMember
        by_cases inRest : key ∈ rest
        · exact reads key inRest
        · have isHead : key = head := by
            simpa [inRest] using keyMember
          subst key
          refine ⟨value, headRead, ?_⟩
          rw [others head inRest, AList.lookup_insert]
      · intro key absent
        rw [List.mem_cons, not_or] at absent
        rw [others key absent.2, AList.lookup_insert_ne absent.1]

/-- A dictionary read along `SYMBOLS` has exactly the five keys. -/
theorem fiveSymbols_of_members
    {Value : Type} {values : Dict Value}
    (members :
      ∀ key, key ∈ values ↔ key ∈ symbols ∨ key ∈ (∅ : Dict Value)) :
    FiveSymbols values := by
  unfold FiveSymbols
  ext key
  rw [List.mem_toFinset, ← AList.mem_keys, members, List.mem_toFinset]
  simp

/-- Values that can all be read are read into a dictionary. -/
theorem foldlM_insert_succeeds
    {Error Value : Type} {read : String → Except Error Value}
    {keys : List String}
    (readable : ∀ key ∈ keys, ∃ value, read key = .ok value)
    (start : Dict Value) :
    ∃ result,
      keys.foldlM
          (fun result key => do
            let value ← read key
            return result.insert key value)
          start =
        .ok result := by
  induction keys generalizing start with
  | nil => exact ⟨start, rfl⟩
  | cons head rest induction =>
      rcases readable head List.mem_cons_self with ⟨value, headRead⟩
      rcases
          induction
            (fun key member => readable key (List.mem_cons_of_mem _ member))
            (start.insert head value) with
        ⟨result, folded⟩
      refine ⟨result, ?_⟩
      simp only [List.foldlM_cons, bind_eq_ok_iff, pure_eq_ok_iff]
      exact ⟨_, ⟨value, headRead, rfl⟩, folded⟩

/-- What a successful read establishes. -/
theorem anchors_eq_ok
    {model : BarModel} {audit : List AuditRow}
    {values : Dict ClosedBarEvent}
    (read : anchors model audit = .ok values) :
    FiveSymbols values ∧
      ∀ symbol ∈ symbols,
        ∃ event,
          values.lookup symbol = some event ∧
            lastOpen audit symbol = some event.openTimeMs ∧
            event.watermark = event.openTimeMs + minute ∧
            minute ∣ event.openTimeMs := by
  simp only [anchors, bind_eq_ok_iff, refuseIf_eq_ok_iff, exists_const]
    at read
  rcases read with ⟨_, _, folded⟩
  rcases foldlM_insert_eq_ok folded with ⟨members, reads, _⟩
  refine ⟨fiveSymbols_of_members members, ?_⟩
  intro symbol member
  rcases reads symbol member with ⟨event, eventRead, found⟩
  exact ⟨event, found, anchorEvent_eq_ok eventRead⟩

end KairosDeploy.Epoch.AuditAnchors
