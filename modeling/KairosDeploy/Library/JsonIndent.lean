import KairosDeploy.Library.HexDigest
import KairosDeploy.Library.JsonText

/-!
# Indented JSON texts

`json.dumps(value, sort_keys=True, indent=2)`: every item and every member on
a line of its own.  Documents without other numbers than zero are read back;
their texts are those of the compact layout with white space between tokens.
-/

namespace KairosDeploy.Library.JsonIndent

open KairosDeploy.Library.HexDigest
open KairosDeploy.Library.PyNumber
open KairosDeploy.Library.JsonValue
open KairosDeploy.Library.JsonText

/-! ## Writing -/

/-- A line break and the spaces of this depth. -/
def newline (depth : Nat) : List Char :=
  '\n' :: List.replicate (2 * depth) ' '

mutual

/-- One value at this depth. -/
def writeIndented (floats : FloatText) (depth : Nat) : Json → List Char
  | .array (first :: items) =>
      '[' ::
        (newline (depth + 1) ++ writeIndented floats (depth + 1) first ++
          indentedItems floats depth items)
  | .object ((key, value) :: members) =>
      '\x7b' ::
        (newline (depth + 1) ++ writeText key ++
          ':' :: ' ' :: writeIndented floats (depth + 1) value ++
          indentedMembers floats depth members)
  | value => write floats value

/-- The items after the first, and the closing bracket. -/
def indentedItems (floats : FloatText) (depth : Nat) :
    List Json → List Char
  | [] => newline depth ++ [']']
  | item :: items =>
      ',' ::
        (newline (depth + 1) ++ writeIndented floats (depth + 1) item ++
          indentedItems floats depth items)

/-- The members after the first, and the closing brace. -/
def indentedMembers (floats : FloatText) (depth : Nat) :
    Members → List Char
  | [] => newline depth ++ ['\x7d']
  | (key, value) :: members =>
      ',' ::
        (newline (depth + 1) ++ writeText key ++
          ':' :: ' ' :: writeIndented floats (depth + 1) value ++
          indentedMembers floats depth members)

end

/-! ## Reading -/

section RoundTrip

variable {floats : FloatText} {reader : Reader}

theorem skipSpace_newline (depth : Nat) (text : List Char) :
    skipSpace (newline depth ++ text) = skipSpace text := by
  unfold skipSpace
  apply List.dropWhile_append_of_pos
  intro character listed
  rw [newline, List.mem_cons, List.mem_replicate] at listed
  rcases listed with rfl | ⟨_, rfl⟩ <;> rfl

theorem skipSpace_space (text : List Char) :
    skipSpace (' ' :: text) = skipSpace text := by
  unfold skipSpace
  exact List.dropWhile_cons_of_pos rfl

theorem readValue_newline (fuel depth : Nat) (text : List Char) :
    readValue reader fuel (newline depth ++ text) =
      readValue reader fuel text := by
  cases fuel with
  | zero => rfl
  | succ fuel => simp only [readValue, skipSpace_newline]

theorem readValue_space (fuel : Nat) (text : List Char) :
    readValue reader fuel (' ' :: text) = readValue reader fuel text := by
  cases fuel with
  | zero => rfl
  | succ fuel => simp only [readValue, skipSpace_space]

/-- What follows a value: a comma, a line break or nothing. -/
def Broken (rest : List Char) : Prop :=
  ∀ character ∈ rest.head?, character = ',' ∨ character = '\n'

/-- Documents of texts, truth values and zeros. -/
inductive Plain : Json → Prop
  | null : Plain .null
  | bool (value : Bool) : Plain (.bool value)
  | zero : Plain (.int 0)
  | text (value : String) : Plain (.text value)
  | array {items : List Json} (each : ∀ item ∈ items, Plain item) :
      Plain (.array items)
  | object {members : Members} (sorted : KeysSorted members)
      (each : ∀ member ∈ members, Plain member.2) :
      Plain (.object members)

/-- A display of plain values is plain. -/
theorem plain_dict
    {entries : Members} (each : ∀ entry ∈ entries, Plain entry.2) :
    Plain (.object (dict entries)) :=
  .object (keysSorted_dict entries)
    fun member listed => each member (mem_dict listed)

/-- What it means for a reader to read an indented value back. -/
def ReadsIndented
    (floats : FloatText) (reader : Reader) (value : Json) : Prop :=
  ∀ depth fuel rest,
    (writeIndented floats depth value).length ≤ fuel → Broken rest →
      readValue reader fuel (writeIndented floats depth value ++ rest) =
        some (value, rest)

theorem writeIndented_eq_cons
    (floats : FloatText) (depth : Nat) {value : Json} (plain : Plain value) :
    ∃ head tail,
      writeIndented floats depth value = head :: tail ∧ OpensValue head := by
  cases plain with
  | null => exact ⟨_, _, rfl, by decide⟩
  | bool value =>
      cases value with
      | true => exact ⟨_, _, rfl, by decide⟩
      | false => exact ⟨_, _, rfl, by decide⟩
  | zero => exact ⟨'0', [], rfl, by decide⟩
  | text value => exact ⟨_, _, rfl, by decide⟩
  | array each =>
      rename_i items
      cases items with
      | nil => exact ⟨_, _, rfl, by decide⟩
      | cons first items =>
          exact ⟨'[', _, by rw [writeIndented], by decide⟩
  | object sorted each =>
      rename_i members
      cases members with
      | nil => exact ⟨_, _, rfl, by decide⟩
      | cons first members =>
          exact ⟨'\x7b', _, by rw [writeIndented], by decide⟩

theorem broken_indentedItems
    (depth : Nat) (items : List Json) (rest : List Char) :
    Broken (indentedItems floats depth items ++ rest) := by
  intro character isHead
  cases items with
  | nil =>
      simp only [indentedItems, newline, List.cons_append, List.head?_cons,
        Option.mem_some_iff] at isHead
      exact Or.inr isHead.symm
  | cons item items =>
      simp only [indentedItems, List.cons_append, List.head?_cons,
        Option.mem_some_iff] at isHead
      exact Or.inl isHead.symm

theorem broken_indentedMembers
    (depth : Nat) (members : Members) (rest : List Char) :
    Broken (indentedMembers floats depth members ++ rest) := by
  intro character isHead
  cases members with
  | nil =>
      simp only [indentedMembers, newline, List.cons_append, List.head?_cons,
        Option.mem_some_iff] at isHead
      exact Or.inr isHead.symm
  | cons member members =>
      simp only [indentedMembers, List.cons_append, List.head?_cons,
        Option.mem_some_iff] at isHead
      exact Or.inl isHead.symm

/-- The items after the first are read back. -/
theorem readItems_indentedItems
    {items : List Json}
    (each : ∀ item ∈ items, ReadsIndented floats reader item)
    (depth : Nat) :
    ∀ fuel rest, (indentedItems floats depth items).length ≤ fuel →
      readItems reader fuel (indentedItems floats depth items ++ rest) =
        some (items, rest) := by
  induction items with
  | nil =>
      intro fuel rest enough
      cases fuel with
      | zero => simp [indentedItems, newline] at enough
      | succ fuel =>
          rw [indentedItems, List.append_assoc, readItems,
            skipSpace_newline, List.singleton_append,
            skipSpace_cons _ (by decide)]
          rfl
  | cons item tail induction =>
      intro fuel rest enough
      rw [List.forall_mem_cons] at each
      cases fuel with
      | zero => simp [indentedItems] at enough
      | succ fuel =>
          simp only [indentedItems, List.length_cons, List.length_append]
            at enough
          have head :=
            each.1 (depth + 1) fuel (indentedItems floats depth tail ++ rest)
              (by omega) (broken_indentedItems depth tail rest)
          have others := induction each.2 fuel rest (by omega)
          simp only [indentedItems, List.cons_append, List.append_assoc]
          rw [readItems, skipSpace_cons _ (by decide)]
          simp [readValue_newline, head, others]

/-- One member is read back. -/
theorem readMember_indented
    {key : String} {value : Json}
    (reads : ReadsIndented floats reader value)
    (depth fuel : Nat) (rest : List Char)
    (enough :
      (writeText key ++ ':' :: ' ' :: writeIndented floats depth value).length
        ≤ fuel)
    (broken : Broken rest) :
    readMember reader fuel
        (newline depth ++ (writeText key ++
          ':' :: ' ' :: (writeIndented floats depth value ++ rest))) =
      some ((key, value), rest) := by
  cases fuel with
  | zero => simp [writeText] at enough
  | succ fuel =>
      simp only [writeText, List.length_cons, List.length_append]
        at enough
      have valueRead := reads depth fuel rest (by omega) broken
      simp only [writeText, List.cons_append, List.append_assoc,
        List.nil_append]
      rw [readMember, skipSpace_newline, skipSpace_cons _ (by decide)]
      have colon :
          skipSpace
              (':' :: ' ' :: (writeIndented floats depth value ++ rest)) =
            ':' :: ' ' :: (writeIndented floats depth value ++ rest) :=
        skipSpace_cons _ (by decide)
      simp [readText_writeText, colon, readValue_space, valueRead]

/-- The members after the first are read back. -/
theorem readMembers_indentedMembers
    {members : Members}
    (each : ∀ member ∈ members, ReadsIndented floats reader member.2)
    (depth : Nat) :
    ∀ fuel rest, (indentedMembers floats depth members).length ≤ fuel →
      readMembers reader fuel (indentedMembers floats depth members ++ rest) =
        some (members, rest) := by
  induction members with
  | nil =>
      intro fuel rest enough
      cases fuel with
      | zero => simp [indentedMembers, newline] at enough
      | succ fuel =>
          rw [indentedMembers, List.append_assoc, readMembers,
            skipSpace_newline, List.singleton_append,
            skipSpace_cons _ (by decide)]
          rfl
  | cons member tail induction =>
      intro fuel rest enough
      rcases member with ⟨key, value⟩
      rw [List.forall_mem_cons] at each
      cases fuel with
      | zero => simp [indentedMembers] at enough
      | succ fuel =>
          simp only [indentedMembers, List.length_cons, List.length_append]
            at enough
          have memberEnough :
              (writeText key ++
                ':' :: ' ' :: writeIndented floats (depth + 1) value).length ≤
                  fuel := by
            simp only [List.length_cons, List.length_append]
            omega
          have head :=
            readMember_indented each.1 (depth + 1) fuel
              (indentedMembers floats depth tail ++ rest)
              memberEnough (broken_indentedMembers depth tail rest)
          have others := induction each.2 fuel rest (by omega)
          simp only [indentedMembers, List.cons_append, List.append_assoc]
          rw [readMembers, skipSpace_cons _ (by decide)]
          simp [head, others]

theorem readNumber_zero
    (float : List Char → PyFloat) {rest : List Char} (broken : Broken rest) :
    readNumber float ('0' :: rest) = some (.int 0, rest) := by
  cases rest with
  | nil => rfl
  | cons head tail =>
      rcases broken head rfl with rfl | rfl
      · simp [readNumber, signPart, wholePart, fractionPart, exponentPart]
        rfl
      · simp [readNumber, signPart, wholePart, fractionPart, exponentPart]
        rfl

/-- A reader reads every plain value back. -/
theorem readsIndented_of_plain {value : Json} (plain : Plain value) :
    ReadsIndented floats reader value := by
  induction plain with
  | null =>
      intro depth fuel rest enough _
      cases fuel with
      | zero => simp [writeIndented, write] at enough
      | succ fuel => simp [writeIndented, write, readValue, skipSpace]
  | bool value =>
      intro depth fuel rest enough _
      cases fuel with
      | zero => cases value <;> simp [writeIndented, write] at enough
      | succ fuel =>
          cases value <;> simp [writeIndented, write, readValue, skipSpace]
  | zero =>
      intro depth fuel rest enough broken
      cases fuel with
      | zero => simp [writeIndented, write, writeInt] at enough
      | succ fuel =>
          exact
            readValue_of_readNumber (readNumber_zero reader.float broken) fuel
  | text value =>
      intro depth fuel rest enough _
      cases fuel with
      | zero => simp [writeIndented, write, writeText] at enough
      | succ fuel =>
          simp only [writeIndented, write, writeText, List.cons_append,
            List.append_assoc, List.nil_append]
          rw [readValue, skipSpace_cons _ (by decide)]
          simp [readText_writeText]
  | array each induction =>
      rename_i items
      intro depth fuel rest enough _
      cases fuel with
      | zero => cases items <;> simp [writeIndented, write] at enough
      | succ fuel =>
          cases items with
          | nil => simp [writeIndented, write, readValue, skipSpace]
          | cons first items =>
              rw [List.forall_mem_cons] at each induction
              simp only [writeIndented, List.length_cons, List.length_append]
                at enough
              have head :=
                induction.1 (depth + 1) fuel
                  (indentedItems floats depth items ++ rest) (by omega)
                  (broken_indentedItems depth items rest)
              have others :=
                readItems_indentedItems induction.2 depth fuel rest (by omega)
              rcases writeIndented_eq_cons floats (depth + 1) each.1 with
                ⟨opening, tail, written, opens⟩
              simp only [writeIndented, List.cons_append, List.append_assoc]
              rw [readValue, skipSpace_cons _ (by decide)]
              simp only [written, List.cons_append] at head ⊢
              rw [skipSpace_newline, skipSpace_cons _ opens.1]
              split
              · rename_i after equal
                exact absurd (List.cons.inj equal).1 opens.2
              · simp [readValue_newline, head, others]
  | object sorted each induction =>
      rename_i members
      intro depth fuel rest enough _
      cases fuel with
      | zero => cases members <;> simp [writeIndented, write] at enough
      | succ fuel =>
          cases members with
          | nil => simp [writeIndented, write, readValue, skipSpace]
          | cons first members =>
              rcases first with ⟨key, value⟩
              rw [List.forall_mem_cons] at induction
              simp only [writeIndented, List.length_cons, List.length_append]
                at enough
              have firstEnough :
                  (writeText key ++
                    ':' :: ' ' ::
                      writeIndented floats (depth + 1) value).length ≤
                    fuel := by
                simp only [List.length_cons, List.length_append]
                omega
              have head :=
                readMember_indented induction.1 (depth + 1) fuel
                  (indentedMembers floats depth members ++ rest) firstEnough
                  (broken_indentedMembers depth members rest)
              have others :=
                readMembers_indentedMembers induction.2 depth fuel rest
                  (by omega)
              simp only [writeIndented, List.cons_append, List.append_assoc]
              rw [readValue, skipSpace_cons _ (by decide)]
              have opens :
                  skipSpace
                      (writeText key ++
                        ':' :: ' ' ::
                          (writeIndented floats (depth + 1) value ++
                            (indentedMembers floats depth members ++ rest))) =
                    writeText key ++
                      ':' :: ' ' ::
                        (writeIndented floats (depth + 1) value ++
                          (indentedMembers floats depth members ++ rest)) :=
                skipSpace_cons _ (by decide)
              simp only [skipSpace_newline, opens]
              simp only [writeText, List.cons_append, List.append_assoc,
                List.nil_append] at head ⊢
              simp [head, others, dict_of_keysSorted sorted]

end RoundTrip

/-! ## Saved documents -/

/-- `(json.dumps(value, sort_keys=True, indent=2) + "\n").encode()`. -/
def saved (floats : FloatText) (value : Json) : List UInt8 :=
  utf8 (String.ofList (writeIndented floats 0 value ++ ['\n']))

/-- What the writer has written, the reader reads back. -/
theorem loads_writeIndented
    {floats : FloatText} {reader : Reader} {value : Json}
    (plain : Plain value) :
    loads reader (String.ofList (writeIndented floats 0 value ++ ['\n'])) =
      some value := by
  have read :=
    @readsIndented_of_plain floats reader value plain 0
      ((writeIndented floats 0 value ++ ['\n']).length + 1) ['\n']
      (by simp only [List.length_append]; omega)
      (fun _ isHead => Or.inr (Option.mem_some_iff.1 isHead).symm)
  unfold loads
  rw [String.toList_ofList, read]
  rfl

/-! ## Lengths of texts -/

section Lengths

variable (floats : FloatText) (depth : Nat)

/-- What a member adds to the text of its object. -/
def memberCost (member : String × Json) : Nat :=
  (writeText member.1).length +
    (writeIndented floats (depth + 1) member.2).length + (2 * depth + 6)

/-- What an item adds to the text of its array. -/
def itemCost (item : Json) : Nat :=
  (writeIndented floats (depth + 1) item).length + (2 * depth + 4)

theorem length_newline : (newline depth).length = 2 * depth + 1 := by
  simp [newline]

theorem length_indentedMembers (members : Members) :
    (indentedMembers floats depth members).length =
      (members.map (memberCost floats depth)).sum + (2 * depth + 2) := by
  induction members with
  | nil => simp [indentedMembers, length_newline]
  | cons member rest induction =>
      simp only [indentedMembers, List.length_cons, List.length_append,
        length_newline, induction, List.map_cons, List.sum_cons, memberCost]
      omega

theorem length_indentedItems (items : List Json) :
    (indentedItems floats depth items).length =
      (items.map (itemCost floats depth)).sum + (2 * depth + 2) := by
  induction items with
  | nil => simp [indentedItems, length_newline]
  | cons item rest induction =>
      simp only [indentedItems, List.length_cons, List.length_append,
        length_newline, induction, List.map_cons, List.sum_cons, itemCost]
      omega

theorem length_indented_object_le (members : Members) :
    (writeIndented floats depth (.object members)).length ≤
      (members.map (memberCost floats depth)).sum + (2 * depth + 2) := by
  cases members with
  | nil => simp [writeIndented, write]
  | cons member rest =>
      simp only [writeIndented, List.length_cons, List.length_append,
        length_newline, length_indentedMembers, List.map_cons, List.sum_cons,
        memberCost]
      omega

theorem length_indented_array_le (items : List Json) :
    (writeIndented floats depth (.array items)).length ≤
      (items.map (itemCost floats depth)).sum + (2 * depth + 2) := by
  cases items with
  | nil => simp [writeIndented, write]
  | cons item rest =>
      simp only [writeIndented, List.length_cons, List.length_append,
        length_newline, length_indentedItems, List.map_cons, List.sum_cons,
        itemCost]
      omega

/-- An object that is built of few texts has a short text. -/
theorem length_indented_dict_le
    {entries : Members} (distinct : (entries.map Prod.fst).Nodup) :
    (writeIndented floats depth (.object (dict entries))).length ≤
      (entries.map (memberCost floats depth)).sum + (2 * depth + 2) := by
  have bound := length_indented_object_le floats depth (dict entries)
  rw [((perm_dict distinct).map _).sum_eq] at bound
  exact bound

theorem length_saved_le (value : Json) :
    (saved floats value).length ≤
      4 * ((writeIndented floats 0 value).length + 1) := by
  have bound := length_utf8_le (writeIndented floats 0 value ++ ['\n'])
  rw [List.length_append] at bound
  exact bound

end Lengths

end KairosDeploy.Library.JsonIndent
