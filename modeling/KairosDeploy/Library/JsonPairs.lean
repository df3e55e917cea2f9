import KairosDeploy.Library.JsonText

/-!
# Objects from their pairs

`json.loads` with `object_pairs_hook`: every object is built by a hook from
its pairs, in the order and as often as they are written, and the hook may
raise.  A hook that keeps sorted members as they are reads back what the
writer writes.
-/

namespace KairosDeploy.Library.JsonPairs

open KairosDeploy.Library.JsonText
open KairosDeploy.Library.JsonValue
open KairosDeploy.Library.PyNumber

/-! ## Reading -/

/-- A reader and its `object_pairs_hook`, absent where the hook raises. -/
structure PairReader extends Reader where
  hook : Members → Option Json

mutual

/-- One value.  Every call reads a character, so the length is enough fuel. -/
def readValue (reader : PairReader) :
    Nat → List Char → Option (Json × List Char)
  | 0, _ => none
  | fuel + 1, text =>
      match skipSpace text with
      | '[' :: rest =>
          match skipSpace rest with
          | ']' :: after => some (.array [], after)
          | _ => do
              let (first, after) ← readValue reader fuel rest
              let (items, after) ← readItems reader fuel after
              return (.array (first :: items), after)
      | '\x7b' :: rest =>
          match skipSpace rest with
          | '\x7d' :: after => do
              let value ← reader.hook []
              return (value, after)
          | _ => do
              let (first, after) ← readMember reader fuel rest
              let (members, after) ← readMembers reader fuel after
              let value ← reader.hook (first :: members)
              return (value, after)
      -- Texts, numbers and constants are read as without a hook.
      | other => JsonText.readValue reader.toReader (fuel + 1) other

/-- The items after the first, and the closing bracket. -/
def readItems (reader : PairReader) :
    Nat → List Char → Option (List Json × List Char)
  | 0, _ => none
  | fuel + 1, text =>
      match skipSpace text with
      | ']' :: rest => some ([], rest)
      | ',' :: rest => do
          let (item, after) ← readValue reader fuel rest
          let (items, after) ← readItems reader fuel after
          return (item :: items, after)
      | _ => none

/-- One member of an object. -/
def readMember (reader : PairReader) :
    Nat → List Char → Option ((String × Json) × List Char)
  | 0, _ => none
  | fuel + 1, text =>
      match skipSpace text with
      | '"' :: rest => do
          let (key, after) ← readText rest
          match skipSpace after with
          | ':' :: rest => do
              let (value, after) ← readValue reader fuel rest
              return ((String.ofList key, value), after)
          | _ => none
      | _ => none

/-- The members after the first, and the closing brace. -/
def readMembers (reader : PairReader) :
    Nat → List Char → Option (Members × List Char)
  | 0, _ => none
  | fuel + 1, text =>
      match skipSpace text with
      | '\x7d' :: rest => some ([], rest)
      | ',' :: rest => do
          let (member, after) ← readMember reader fuel rest
          let (members, after) ← readMembers reader fuel after
          return (member :: members, after)
      | _ => none

end

/-- `json.loads` with the hook. -/
def loads (reader : PairReader) (text : String) : Option Json := do
  let (value, rest) ←
    readValue reader (text.toList.length + 1) text.toList
  if (skipSpace rest).isEmpty then some value else none

/-- A hook that refuses a repeated key. -/
def uniquePairs (pairs : Members) : Option Json :=
  if (pairs.map Prod.fst).Nodup then some (.object (dict pairs)) else none

/-! ## One step of the reader -/

variable {reader : PairReader}

/-- A list that is not closed at once has a first item. -/
theorem readValue_array
    {rest : List Char} (fuel : Nat)
    (unclosed : ∀ after, skipSpace rest ≠ ']' :: after) :
    readValue reader (fuel + 1) ('[' :: rest) = do
      let (first, after) ← readValue reader fuel rest
      let (items, after) ← readItems reader fuel after
      return (.array (first :: items), after) := by
  rw [readValue, skipSpace_cons _ (by decide)]
  split
  · rename_i equal
    cases equal
    split
    · rename_i after closed
      exact absurd closed (unclosed after)
    · rfl
  · rename_i equal
    cases (List.cons.inj equal).1
  · rename_i apart _
    exact absurd rfl (apart rest)

/-- An object that is not closed at once has a first member. -/
theorem readValue_object
    {rest : List Char} (fuel : Nat)
    (unclosed : ∀ after, skipSpace rest ≠ '\x7d' :: after) :
    readValue reader (fuel + 1) ('\x7b' :: rest) = do
      let (first, after) ← readMember reader fuel rest
      let (members, after) ← readMembers reader fuel after
      let value ← reader.hook (first :: members)
      return (value, after) := by
  rw [readValue, skipSpace_cons _ (by decide)]
  split
  · rename_i equal
    cases (List.cons.inj equal).1
  · rename_i equal
    cases equal
    split
    · rename_i after closed
      exact absurd closed (unclosed after)
    · rfl
  · rename_i apart
    exact absurd rfl (apart rest)

/-- What opens neither a list nor an object is read as without a hook. -/
theorem readValue_other
    {head : Char} (tail : List Char) (fuel : Nat)
    (visible :
      ¬ (head = ' ' ∨ head = '\t' ∨ head = '\n' ∨ head = '\r'))
    (notArray : head ≠ '[') (notObject : head ≠ '\x7b') :
    readValue reader (fuel + 1) (head :: tail) =
      JsonText.readValue reader.toReader (fuel + 1) (head :: tail) := by
  rw [readValue, skipSpace_cons _ visible]
  split
  · rename_i equal
    exact absurd (List.cons.inj equal).1 notArray
  · rename_i equal
    exact absurd (List.cons.inj equal).1 notObject
  · rfl

/-- After a comma there is another item. -/
theorem readItems_comma (fuel : Nat) (rest : List Char) :
    readItems reader (fuel + 1) (',' :: rest) = do
      let (item, after) ← readValue reader fuel rest
      let (items, after) ← readItems reader fuel after
      return (item :: items, after) := by
  rw [readItems, skipSpace_cons _ (by decide)]
  rfl

/-- A member is a key, a colon and a value. -/
theorem readMember_quote (fuel : Nat) (rest : List Char) :
    readMember reader (fuel + 1) ('"' :: rest) =
      (do
        let (key, after) ← readText rest
        match skipSpace after with
        | ':' :: rest => do
            let (value, after) ← readValue reader fuel rest
            return ((String.ofList key, value), after)
        | _ => none) := by
  rw [readMember, skipSpace_cons _ (by decide)]
  rfl

/-- After a comma there is another member. -/
theorem readMembers_comma (fuel : Nat) (rest : List Char) :
    readMembers reader (fuel + 1) (',' :: rest) = do
      let (member, after) ← readMember reader fuel rest
      let (members, after) ← readMembers reader fuel after
      return (member :: members, after) := by
  rw [readMembers, skipSpace_cons _ (by decide)]
  rfl

/-! ## Values are read back -/

/-- The hook keeps the members that the writer writes. -/
def KeepsSorted (hook : Members → Option Json) : Prop :=
  ∀ members, KeysSorted members → hook members = some (.object members)

theorem keepsSorted_uniquePairs : KeepsSorted uniquePairs := by
  intro members sorted
  have distinct : (members.map Prod.fst).Nodup :=
    List.pairwise_map.2 (sorted.imp fun before => before.ne)
  unfold uniquePairs
  rw [if_pos distinct, dict_of_keysSorted sorted]

section

variable {floats : FloatText}

/-- What it means for a reader to read a value back. -/
def ReadsBack (floats : FloatText) (reader : PairReader) (value : Json) :
    Prop :=
  ∀ fuel rest, (write floats value).length ≤ fuel → Delimited rest →
    readValue reader fuel (write floats value ++ rest) = some (value, rest)

/-- A value that opens neither a list nor an object is read back. -/
theorem readsBack_of_plain
    (agrees : reader.float = floats.float)
    {value : Json} (canonical : Canonical value)
    (plain :
      ∀ head ∈ (write floats value).head?, head ≠ '[' ∧ head ≠ '\x7b') :
    ReadsBack floats reader value := by
  intro fuel rest enough delimited
  have readsBack : JsonText.ReadsBack floats reader.toReader value :=
    JsonText.readsBack_of_canonical agrees canonical
  have read := readsBack fuel rest enough delimited
  rcases write_eq_cons floats canonical with ⟨head, tail, split, opens⟩
  rw [split] at read enough plain ⊢
  have others := plain head rfl
  cases fuel with
  | zero => cases enough
  | succ fuel =>
      rw [List.cons_append] at read ⊢
      rw [readValue_other _ fuel opens.1 others.1 others.2]
      exact read

theorem delimited_nil : Delimited [] := by
  rintro character ⟨⟩

theorem apart_of_number
    {head : Char} (number : head = '-' ∨ head.isDigit = true) :
    head ≠ '[' ∧ head ≠ '\x7b' := by
  constructor
  · rintro rfl
    simp at number
  · rintro rfl
    simp at number

theorem plain_of_number
    {float : List Char → PyFloat} {text : List Char}
    {result : Json × List Char}
    (read : readNumber float (text ++ []) = some result) :
    ∀ head ∈ text.head?, head ≠ '[' ∧ head ≠ '\x7b' := by
  intro head isHead
  rw [List.append_nil] at read
  rcases head_of_readNumber read with ⟨other, tail, rfl, number⟩
  cases isHead
  exact apart_of_number number

/-- The items after the first are read back. -/
theorem readItems_writeItems
    {items : List Json}
    (each : ∀ item ∈ items, ReadsBack floats reader item)
    (fuel : Nat) (rest : List Char)
    (enough : (writeItems floats items).length ≤ fuel) :
    readItems reader fuel (writeItems floats items ++ rest) =
      some (items, rest) := by
  induction items generalizing fuel with
  | nil =>
      cases fuel with
      | zero => cases enough
      | succ fuel =>
          rw [writeItems, List.cons_append, readItems,
            skipSpace_cons _ (by decide)]
          rfl
  | cons item tail induction =>
      rw [List.forall_mem_cons] at each
      cases fuel with
      | zero => cases enough
      | succ fuel =>
          rw [writeItems, List.length_cons, List.length_append] at enough
          have head :=
            each.1 fuel (writeItems floats tail ++ rest) (by omega)
              (delimited_writeItems tail rest)
          have others := induction each.2 fuel (by omega)
          rw [writeItems, List.cons_append, List.append_assoc,
            readItems_comma, head]
          simp [others]

/-- One member is read back. -/
theorem readMember_write
    {key : String} {value : Json}
    (reads : ReadsBack floats reader value) {fuel : Nat} (rest : List Char)
    (enough :
      (writeText key ++ ':' :: write floats value).length ≤ fuel)
    (delimited : Delimited rest) :
    readMember reader fuel
        (writeText key ++ ':' :: write floats value ++ rest) =
      some ((key, value), rest) := by
  cases fuel with
  | zero => cases enough
  | succ fuel =>
      simp only [writeText, List.length_cons, List.length_append]
        at enough
      have valueRead := reads fuel rest (by omega) delimited
      have colon :
          skipSpace (':' :: (write floats value ++ rest)) =
            ':' :: (write floats value ++ rest) :=
        skipSpace_cons _ (by decide)
      simp only [writeText, List.cons_append, List.append_assoc,
        List.nil_append]
      rw [readMember_quote, readText_writeText]
      simp [colon, valueRead]

/-- The members after the first are read back. -/
theorem readMembers_writeMembers
    {members : Members}
    (each : ∀ member ∈ members, ReadsBack floats reader member.2)
    (fuel : Nat) (rest : List Char)
    (enough : (writeMembers floats members).length ≤ fuel) :
    readMembers reader fuel (writeMembers floats members ++ rest) =
      some (members, rest) := by
  induction members generalizing fuel with
  | nil =>
      cases fuel with
      | zero => cases enough
      | succ fuel =>
          rw [writeMembers, List.cons_append, readMembers,
            skipSpace_cons _ (by decide)]
          rfl
  | cons member tail induction =>
      rcases member with ⟨key, value⟩
      rw [List.forall_mem_cons] at each
      cases fuel with
      | zero => cases enough
      | succ fuel =>
          simp only [writeMembers, List.length_cons, List.length_append]
            at enough
          have memberEnough :
              (writeText key ++ ':' :: write floats value).length ≤ fuel := by
            simp only [List.length_cons, List.length_append]
            omega
          have head :=
            readMember_write each.1 (writeMembers floats tail ++ rest)
              memberEnough (delimited_writeMembers tail rest)
          have others := induction each.2 fuel (by omega)
          simp only [writeMembers, List.cons_append, List.append_assoc]
            at head ⊢
          rw [readMembers_comma, head]
          simp [others]

/-- A list is read back whatever follows it. -/
theorem readValue_writeArray
    {items : List Json} (canonical : ∀ item ∈ items, Canonical item)
    (each : ∀ item ∈ items, ReadsBack floats reader item)
    {fuel : Nat} (rest : List Char)
    (enough : (write floats (.array items)).length ≤ fuel) :
    readValue reader fuel (write floats (.array items) ++ rest) =
      some (.array items, rest) := by
  cases fuel with
  | zero => cases items <;> cases enough
  | succ fuel =>
      cases items with
      | nil =>
          rw [write, List.cons_append, List.cons_append, readValue,
            skipSpace_cons _ (by decide)]
          rfl
      | cons first items =>
          rw [List.forall_mem_cons] at canonical each
          rw [write, List.length_cons, List.length_append] at enough
          have head :=
            each.1 fuel (writeItems floats items ++ rest) (by omega)
              (delimited_writeItems items rest)
          have others :=
            readItems_writeItems each.2 fuel rest (by omega)
          rcases write_eq_cons floats canonical.1 with
            ⟨opening, tail, split, opens⟩
          rw [write, List.cons_append, List.append_assoc, readValue_array]
          · simp [head, others]
          · intro after closed
            rw [split, List.cons_append, skipSpace_cons _ opens.1] at closed
            exact opens.2 (List.cons.inj closed).1

/-- An object is read back whatever follows it. -/
theorem readValue_writeObject
    (keeps : KeepsSorted reader.hook)
    {members : Members} (sorted : KeysSorted members)
    (each : ∀ member ∈ members, ReadsBack floats reader member.2)
    {fuel : Nat} (rest : List Char)
    (enough : (write floats (.object members)).length ≤ fuel) :
    readValue reader fuel (write floats (.object members) ++ rest) =
      some (.object members, rest) := by
  cases fuel with
  | zero => cases members <;> cases enough
  | succ fuel =>
      cases members with
      | nil =>
          rw [write, List.cons_append, List.cons_append, readValue,
            skipSpace_cons _ (by decide)]
          simp only [skipSpace_cons _
            (show ¬ ('\x7d' = ' ' ∨ '\x7d' = '\t' ∨ '\x7d' = '\n' ∨
              '\x7d' = '\r') by decide)]
          rw [keeps [] List.Pairwise.nil]
          rfl
      | cons first members =>
          rcases first with ⟨key, value⟩
          rw [List.forall_mem_cons] at each
          simp only [write, List.length_cons, List.length_append] at enough
          have firstEnough :
              (writeText key ++ ':' :: write floats value).length ≤
                fuel := by
            simp only [List.length_cons, List.length_append]
            omega
          have head :=
            readMember_write each.1 (writeMembers floats members ++ rest)
              firstEnough (delimited_writeMembers members rest)
          have others :=
            readMembers_writeMembers each.2 fuel rest (by omega)
          rw [write, List.cons_append, List.append_assoc, readValue_object]
          · rw [List.append_assoc, List.cons_append] at head
            simp [head, others, keeps _ sorted]
          · intro after closed
            rw [writeText, List.cons_append, List.cons_append,
              skipSpace_cons _ (by decide)] at closed
            cases (List.cons.inj closed).1

/-- A reader whose hook keeps sorted members reads values back. -/
theorem readsBack_of_canonical
    (agrees : reader.float = floats.float)
    (keeps : KeepsSorted reader.hook)
    {value : Json} (canonical : Canonical value) :
    ReadsBack floats reader value := by
  induction canonical with
  | null =>
      apply readsBack_of_plain agrees .null
      rintro head ⟨⟩
      decide
  | bool value =>
      apply readsBack_of_plain agrees (.bool value)
      cases value with
      | true =>
          rintro head ⟨⟩
          decide
      | false =>
          rintro head ⟨⟩
          decide
  | int value =>
      exact
        readsBack_of_plain agrees (.int value)
          (plain_of_number
            (readNumber_writeInt floats.float value delimited_nil))
  | float finite =>
      exact
        readsBack_of_plain agrees (.float finite)
          (plain_of_number
            (floats.readNumber_repr _ finite [] delimited_nil))
  | text value =>
      apply readsBack_of_plain agrees (.text value)
      rintro head ⟨⟩
      decide
  | array each induction =>
      exact fun fuel rest enough _ =>
        readValue_writeArray each induction rest enough
  | object sorted each induction =>
      exact fun fuel rest enough _ =>
        readValue_writeObject keeps sorted induction rest enough

/-- What the writer has written, the reader reads back. -/
theorem loads_write
    (agrees : reader.float = floats.float)
    (keeps : KeepsSorted reader.hook)
    {value : Json} (canonical : Canonical value) :
    loads reader (String.ofList (write floats value)) = some value := by
  have read :=
    readsBack_of_canonical agrees keeps canonical
      ((write floats value).length + 1) [] (by omega)
      delimited_nil
  rw [List.append_nil] at read
  unfold loads
  rw [String.toList_ofList, read]
  rfl

end

end KairosDeploy.Library.JsonPairs
