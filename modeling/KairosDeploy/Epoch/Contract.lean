import Mathlib

/-!
# The closed-bar epoch contract

The constants, the error type and the records that the epoch worker, the
controller and the recovery workers share.  A Python `dict` keyed by text is
an association list with distinct keys, so that a key never occurs twice and
`values()` visits each key once.

Times are integers in milliseconds, as in the source: no operation below
wraps around, and Python's floor division and remainder by a positive minute
are Lean's.
-/

namespace KairosDeploy.Epoch.Contract

/-- `EpochError`: a refusal that carries a stable reason and nothing else. -/
structure EpochError where
  reason : String
deriving DecidableEq, Repr

/-- `TOPIC`. -/
def topic : String := "kairos.market.closed_bar.v1"

/-- `SOURCE`. -/
def source : String := "kairos-quant-scouts"

/-- `SYMBOLS`. -/
def symbols : List String :=
  ["BTCUSDT", "ETHUSDT", "SOLUSDT", "BNBUSDT", "XRPUSDT"]

/-- `MINUTE`, in milliseconds. -/
def minute : Int := 60000

/-- `MAX_BARS`. -/
def maxBars : Nat := 150000

/-- `MAX_PENDING`. -/
def maxPending : Nat := 100

/-- `FINALITY_MS`. -/
def finalityMs : Int := 5000

theorem symbols_nodup : symbols.Nodup := by
  decide

/-! ## Bars, payloads and table rows -/

/--
A JSON payload: the members the worker reads, absent when the document lacks
them, and the text of all other members.
-/
structure Payload where
  messageId : Option String
  symbol : Option String
  openTimeMs : Option Int
  closeTimeMs : Option Int
  rest : String
deriving DecidableEq, Repr

/--
The part of a `ClosedBarEventV1` that the worker reads.  `rest` stands for the
prices, volumes and other fields, which are only ever encoded as a whole.
-/
structure ClosedBarEvent where
  messageId : String
  symbol : String
  openTimeMs : Int
  closeTimeMs : Int
  rest : String
deriving DecidableEq, Repr

/-- `event.to_payload()`. -/
def ClosedBarEvent.toPayload (event : ClosedBarEvent) : Payload where
  messageId := some event.messageId
  symbol := some event.symbol
  openTimeMs := some event.openTimeMs
  closeTimeMs := some event.closeTimeMs
  rest := event.rest

/-- The first millisecond a symbol still lacks after this bar. -/
def ClosedBarEvent.watermark (event : ClosedBarEvent) : Int :=
  event.closeTimeMs + 1

/--
A row of `event_audit`.  `columns` is the text of the columns that are stored
and digested but not read: the produced and persisted times, the schema
version and the correlation ids.
-/
structure AuditRow where
  messageId : String
  topic : String
  source : String
  payload : Payload
  columns : String
deriving DecidableEq, Repr

/-! ## Dictionaries keyed by text -/

/-- A Python dictionary with text keys. -/
abbrev Dict (Value : Type) := AList (fun _ : String => Value)

/-- `values.values()`. -/
def dictValues {Value : Type} (values : Dict Value) : List Value :=
  values.entries.map Sigma.snd

/-- `set(values) == set(SYMBOLS)`. -/
def FiveSymbols {Value : Type} (values : Dict Value) : Prop :=
  values.keys.toFinset = symbols.toFinset

instance {Value : Type} (values : Dict Value) :
    Decidable (FiveSymbols values) :=
  inferInstanceAs (Decidable (_ = _))

theorem FiveSymbols.mem_iff
    {Value : Type} {values : Dict Value}
    (five : FiveSymbols values) (symbol : String) :
    symbol ∈ values ↔ symbol ∈ symbols := by
  have membership :
      symbol ∈ values.keys.toFinset ↔ symbol ∈ symbols.toFinset := by
    rw [five]
  simpa [List.mem_toFinset, AList.mem_keys] using membership

theorem FiveSymbols.lookup
    {Value : Type} {values : Dict Value}
    (five : FiveSymbols values) {symbol : String}
    (member : symbol ∈ symbols) :
    ∃ value, values.lookup symbol = some value := by
  have present : symbol ∈ values := (five.mem_iff symbol).2 member
  exact Option.isSome_iff_exists.1 (AList.lookup_isSome.2 present)

/--
The values of a five-symbol dictionary are, up to order, the values looked up
along `SYMBOLS`.
-/
theorem FiveSymbols.dictValues_perm
    {Value : Type} {values : Dict Value}
    (five : FiveSymbols values) :
    (dictValues values).Perm (symbols.filterMap values.lookup) := by
  let paired : List (Sigma fun _ : String => Value) :=
    symbols.filterMap fun symbol =>
      (values.lookup symbol).map (Sigma.mk symbol)
  have pairedNodup : paired.Nodup := by
    apply symbols_nodup.filterMap
    intro left right entry leftEntry rightEntry
    simp only [Option.mem_def, Option.map_eq_some_iff] at leftEntry rightEntry
    rcases leftEntry with ⟨_, _, rfl⟩
    rcases rightEntry with ⟨_, _, equal⟩
    exact (congrArg Sigma.fst equal).symm
  have entriesNodup : values.entries.Nodup :=
    values.nodupKeys.nodup
  have entriesPerm : values.entries.Perm paired := by
    rw [List.perm_ext_iff_of_nodup entriesNodup pairedNodup]
    rintro ⟨key, value⟩
    rw [← AList.mem_lookup_iff]
    simp only [paired, List.mem_filterMap, Option.map_eq_some_iff,
      Option.mem_def, Sigma.mk.injEq]
    constructor
    · intro found
      have present : key ∈ values :=
        AList.lookup_isSome.1 (Option.isSome_iff_exists.2 ⟨value, found⟩)
      exact
        ⟨key, (five.mem_iff key).1 present, value, found, rfl, HEq.rfl⟩
    · rintro ⟨_, _, _, found, rfl, equal⟩
      cases equal
      exact found
  have mapped := entriesPerm.map Sigma.snd
  have projected :
      paired.map Sigma.snd = symbols.filterMap values.lookup := by
    simp [paired, List.map_filterMap, Option.map_map, Function.comp_def]
  rw [projected] at mapped
  exact mapped

end KairosDeploy.Epoch.Contract
