import KairosDeploy.Library.JsonValue
import KairosDeploy.Library.Timestamp

/-!
# Rows of a database

A driver returns a row as a mapping from the names of its columns to values.
A value is what JSON can hold, or a time.
-/

namespace KairosDeploy.Library.DatabaseRow

open KairosDeploy.Library.JsonValue
open KairosDeploy.Library.Timestamp

/-- The value of a column. -/
inductive RawValue where
  | json (value : Json)
  | time (value : Datetime)

/-- A row, by the names of its columns. -/
abbrev Row := String → Option RawValue

/-- `left == right` for a column and a JSON value. -/
def RawValue.eqJson : RawValue → Json → Bool
  | .json left, right => left.pyEq right
  | .time _, _ => false

/-- `type(value) is int and value == number`. -/
def RawValue.isInt (value : RawValue) (number : Int) : Bool :=
  match value with
  | .json (.int stored) => stored = number
  | _ => false

/-- `value is None`. -/
def RawValue.isNone : RawValue → Bool
  | .json .null => true
  | _ => false

/-- `value is True`. -/
def RawValue.isTrue : RawValue → Bool
  | .json value => value.isTrue
  | .time _ => false

/-- `row.get(name)`. -/
def Row.get (row : Row) (name : String) : RawValue :=
  (row name).getD (.json .null)

/-- `left == right` with a text on the right holds of that text only. -/
theorem eqJson_text_iff (value : RawValue) (text : String) :
    value.eqJson (.text text) = true ↔ value = .json (.text text) := by
  cases value with
  | json value => simp [RawValue.eqJson]
  | time value => simp [RawValue.eqJson]

end KairosDeploy.Library.DatabaseRow
