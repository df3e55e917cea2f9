import Mathlib

/-!
# Fields and lines

A text can be cut at every separator, or first at some of them and then
trimmed.  `fields` are the nonempty pieces of the first reading, `lines` those
of the second.  There are never more lines than fields, and the two readings
agree exactly when no line holds a separator inside.
-/

namespace KairosDeploy.Library.Fields

universe u

variable {Value : Type u}

/-- The nonempty pieces between separators. -/
def fields (separates : Value → Bool) (text : List Value) :
    List (List Value) :=
  (text.splitOnP separates).filter fun piece => !piece.isEmpty

/-- A text without the separators at its ends. -/
def trim (separates : Value → Bool) (text : List Value) : List Value :=
  ((text.dropWhile separates).reverse.dropWhile separates).reverse

/-- The nonempty pieces between the `ends`, trimmed. -/
def lines (ends separates : Value → Bool) (text : List Value) :
    List (List Value) :=
  ((text.splitOnP ends).map (trim separates)).filter fun line =>
    !line.isEmpty

/-- No element separates. -/
def Free (separates : Value → Bool) (text : List Value) : Prop :=
  ∀ value ∈ text, separates value = false

section Fields

variable {separates : Value → Bool} {text front back : List Value}
  {separator : Value}

/-- A text is free or starts with a free part and a separator. -/
theorem free_or_exists_separator
    (separates : Value → Bool) (text : List Value) :
    Free separates text ∨
      ∃ front separator back, text = front ++ separator :: back ∧
        Free separates front ∧ separates separator = true := by
  induction text with
  | nil => exact Or.inl fun value member => absurd member List.not_mem_nil
  | cons first rest induction =>
      cases isSeparator : separates first with
      | true =>
          exact
            Or.inr
              ⟨[], first, rest, rfl,
                fun value member => absurd member List.not_mem_nil,
                isSeparator⟩
      | false =>
          rcases induction with
            free | ⟨front, separator, back, rfl, free, ends⟩
          · exact Or.inl (List.forall_mem_cons.2 ⟨isSeparator, free⟩)
          · exact
              Or.inr
                ⟨first :: front, separator, back, rfl,
                  List.forall_mem_cons.2 ⟨isSeparator, free⟩, ends⟩

theorem fields_append
    (front back : List Value) (ends : separates separator = true) :
    fields separates (front ++ separator :: back) =
      fields separates front ++ fields separates back := by
  rw [fields, List.splitOnP_append_cons front back ends,
    List.filter_append, fields, fields]

theorem fields_of_free
    (free : Free separates text) (nonempty : text ≠ []) :
    fields separates text = [text] := by
  rw [fields, List.splitOnP_eq_singleton free]
  simp [nonempty]

@[simp]
theorem fields_nil : fields separates [] = [] := by
  simp [fields]

/-- Separators at the beginning do not show. -/
theorem fields_append_left
    (text : List Value) (all : ∀ value ∈ front, separates value = true) :
    fields separates (front ++ text) = fields separates text := by
  induction front with
  | nil => rfl
  | cons first rest induction =>
      rw [List.forall_mem_cons] at all
      have first_field := fields_append [] (rest ++ text) all.1
      rw [List.nil_append] at first_field
      rw [List.cons_append, first_field, fields_nil, List.nil_append]
      exact induction all.2

/-- Separators at the end do not show. -/
theorem fields_append_right
    (text : List Value) (all : ∀ value ∈ back, separates value = true) :
    fields separates (text ++ back) = fields separates text := by
  cases back with
  | nil => rw [List.append_nil]
  | cons first rest =>
      rw [List.forall_mem_cons] at all
      have none_left := fields_append_left [] all.2
      rw [List.append_nil, fields_nil] at none_left
      rw [fields_append text rest all.1, none_left, List.append_nil]

/-- A text whose first element is none of the separators has a field. -/
theorem fields_ne_nil
    {value : Value} (member : value ∈ text)
    (inner : separates value = false) : fields separates text ≠ [] := by
  induction measured : text.length using Nat.strong_induction_on
    generalizing text with
  | _ size induction =>
      rcases free_or_exists_separator separates text with
        free | ⟨front, separator, back, rfl, free, ends⟩
      · rw [fields_of_free free (List.ne_nil_of_mem member)]
        simp
      · rw [fields_append front back ends]
        rcases List.mem_append.1 member with before | after
        · rw [fields_of_free free (List.ne_nil_of_mem before)]
          simp
        · rcases List.mem_cons.1 after with rfl | later
          · rw [ends] at inner
            cases inner
          · have smaller : back.length < size := by
              rw [← measured, List.length_append, List.length_cons]
              omega
            have found := induction _ smaller later rfl
            simp [found]

end Fields

/-! ## Trimming -/

section Trim

variable {separates : Value → Bool}

/-- A text is its trimmed part between separators. -/
theorem exists_trim (separates : Value → Bool) (text : List Value) :
    ∃ front back, text = front ++ trim separates text ++ back ∧
      (∀ value ∈ front, separates value = true) ∧
      ∀ value ∈ back, separates value = true := by
  refine
    ⟨text.takeWhile separates,
      ((text.dropWhile separates).reverse.takeWhile separates).reverse,
      ?_, ?_, ?_⟩
  · have inner :
        trim separates text ++
            ((text.dropWhile separates).reverse.takeWhile
              separates).reverse =
          text.dropWhile separates := by
      rw [trim, ← List.reverse_append, List.takeWhile_append_dropWhile,
        List.reverse_reverse]
    rw [List.append_assoc, inner, List.takeWhile_append_dropWhile]
  · exact fun value member => List.mem_takeWhile_imp member
  · exact fun value member =>
      List.mem_takeWhile_imp (List.mem_reverse.1 member)

/-- A free text has nothing to trim. -/
theorem trim_of_free
    {text : List Value} (free : Free separates text) :
    trim separates text = text := by
  have not_both {part : List Value} (all : ∀ value ∈ part,
      separates value = true) (inside : part ⊆ text) : part = [] := by
    rw [List.eq_nil_iff_forall_not_mem]
    intro value member
    have separator := all value member
    rw [free value (inside member)] at separator
    cases separator
  rcases exists_trim separates text with ⟨front, back, shape, before, after⟩
  have noFront : front = [] := by
    refine not_both before ?_
    rw [shape, List.append_assoc]
    exact List.subset_append_left _ _
  have noBack : back = [] := by
    refine not_both after ?_
    rw [shape]
    exact List.subset_append_right _ _
  rw [noFront, noBack, List.nil_append, List.append_nil] at shape
  exact shape.symm

/-- Separators before a text are trimmed. -/
theorem trim_append_left
    {front : List Value} (text : List Value)
    (all : ∀ value ∈ front, separates value = true) :
    trim separates (front ++ text) = trim separates text := by
  rw [trim, List.dropWhile_append_of_pos all]
  rfl

/-- Separators after a text are trimmed. -/
theorem trim_append_right
    (text : List Value) {back : List Value}
    (all : ∀ value ∈ back, separates value = true) :
    trim separates (text ++ back) = trim separates text := by
  have reversed : ∀ value ∈ back.reverse, separates value = true :=
    fun value member => all value (List.mem_reverse.1 member)
  rw [trim, trim, List.dropWhile_append]
  split_ifs with blank
  · rw [List.isEmpty_iff] at blank
    have none : back.dropWhile separates = [] :=
      List.dropWhile_eq_nil_iff.2 all
    rw [blank, none]
  · rw [List.reverse_append, List.dropWhile_append_of_pos reversed]

@[simp]
theorem trim_trim (text : List Value) :
    trim separates (trim separates text) = trim separates text := by
  rcases exists_trim separates text with ⟨front, back, shape, before, after⟩
  conv_rhs => rw [shape]
  rw [trim_append_right _ after, trim_append_left _ before]

theorem trim_eq_nil_iff (text : List Value) :
    trim separates text = [] ↔ ∀ value ∈ text, separates value = true := by
  constructor
  · intro blank value member
    rcases exists_trim separates text with
      ⟨front, back, shape, before, after⟩
    rw [blank, List.append_nil] at shape
    rw [shape] at member
    rcases List.mem_append.1 member with inFront | inBack
    · exact before value inFront
    · exact after value inBack
  · intro all
    rw [← List.append_nil text, trim_append_left _ all]
    rfl

/-- What follows a text does not change the beginning of its trimmed part. -/
theorem trim_prefix_trim_append (text rest : List Value) :
    trim separates text <+: trim separates (text ++ rest) := by
  by_cases blank : text.dropWhile separates = []
  · rw [trim, blank]
    exact List.nil_prefix
  · rw [trim, trim, List.dropWhile_append,
      if_neg (by simpa using blank), List.reverse_append,
      List.dropWhile_append]
    split_ifs with empty
    · exact List.prefix_refl _
    · rw [List.reverse_append, List.reverse_reverse]
      refine List.IsPrefix.trans ?_ (List.prefix_append _ _)
      have suffix :=
        List.dropWhile_suffix (l := (text.dropWhile separates).reverse)
          separates
      simpa using List.reverse_prefix.2 suffix

theorem fields_trim (text : List Value) :
    fields separates (trim separates text) = fields separates text := by
  rcases exists_trim separates text with ⟨front, back, shape, before, after⟩
  conv_rhs => rw [shape]
  rw [fields_append_right _ after, fields_append_left _ before]

theorem dropWhile_cons
    {text rest : List Value} {first : Value}
    (shape : text.dropWhile separates = first :: rest) :
    separates first = false := by
  have nonempty : text.dropWhile separates ≠ [] := by simp [shape]
  have head := List.head_dropWhile_not separates nonempty
  simpa [shape] using head

/-- A trimmed text does not end with a separator. -/
theorem trim_ne_append
    {text front : List Value} {separator : Value}
    (ends : separates separator = true) :
    trim separates text ≠ front ++ [separator] := by
  intro shape
  have reversed :
      (text.dropWhile separates).reverse.dropWhile separates =
        separator :: front.reverse := by
    rw [trim, List.reverse_eq_iff] at shape
    rw [shape, List.reverse_append, List.reverse_singleton,
      List.singleton_append]
  rw [dropWhile_cons reversed] at ends
  cases ends

/-- A trimmed text does not start with a separator. -/
theorem trim_ne_cons
    {text back : List Value} {separator : Value}
    (ends : separates separator = true) :
    trim separates text ≠ separator :: back := by
  intro shape
  have inner :
      trim separates text ++
          ((text.dropWhile separates).reverse.takeWhile
            separates).reverse =
        text.dropWhile separates := by
    rw [trim, ← List.reverse_append, List.takeWhile_append_dropWhile,
      List.reverse_reverse]
  rw [shape, List.cons_append] at inner
  rw [dropWhile_cons inner.symm] at ends
  cases ends

/-- A trimmed text that is free is the only field. -/
theorem fields_of_trim_free
    {text : List Value} (nonempty : trim separates text ≠ [])
    (free : Free separates (trim separates text)) :
    fields separates text = [trim separates text] := by
  rw [← fields_trim, fields_of_free free nonempty]

theorem fields_of_trim_nil
    {text : List Value} (empty : trim separates text = []) :
    fields separates text = [] := by
  rw [← fields_trim, empty, fields_nil]

/-- A separator inside a trimmed text separates two fields. -/
theorem two_le_length_fields
    {text : List Value} (inner : ¬ Free separates (trim separates text)) :
    2 ≤ (fields separates text).length := by
  rcases free_or_exists_separator separates (trim separates text) with
    free | ⟨front, separator, back, shape, free, ends⟩
  · exact absurd free inner
  · have before : fields separates front ≠ [] := by
      cases front with
      | nil => exact absurd shape (trim_ne_cons ends)
      | cons first rest =>
          exact fields_ne_nil List.mem_cons_self
            (free _ List.mem_cons_self)
    have after : fields separates back ≠ [] := by
      rcases List.eq_nil_or_concat back with rfl | ⟨rest, last, rfl⟩
      · exact absurd shape (trim_ne_append ends)
      · have lastInner : separates last = false := by
          by_contra isSeparator
          rw [Bool.not_eq_false] at isSeparator
          rw [List.concat_eq_append, ← List.cons_append,
            ← List.append_assoc] at shape
          exact trim_ne_append isSeparator shape
        exact fields_ne_nil (by simp) lastInner
    rw [← fields_trim, shape, fields_append front back ends,
      List.length_append]
    have := List.length_pos_of_ne_nil before
    have := List.length_pos_of_ne_nil after
    omega

end Trim

/-! ## Lines and fields -/

section Lines

variable {ends separates : Value → Bool}

/-- The fields of a text are those of its pieces. -/
theorem fields_eq_flatMap
    (coarser : ∀ value, ends value = true → separates value = true)
    (text : List Value) :
    fields separates text =
      (text.splitOnP ends).flatMap (fields separates) := by
  induction measured : text.length using Nat.strong_induction_on
    generalizing text with
  | _ size induction =>
      rcases free_or_exists_separator ends text with
        free | ⟨front, separator, back, rfl, free, isEnd⟩
      · rw [List.splitOnP_eq_singleton free, List.flatMap_singleton]
      · have smaller : back.length < size := by
          rw [← measured, List.length_append, List.length_cons]
          omega
        rw [fields_append front back (coarser _ isEnd),
          List.splitOnP_append_cons_of_forall_mem free _ isEnd,
          List.flatMap_cons, induction _ smaller back rfl]

/-- The lines of some pieces, counted against their fields. -/
theorem pieces_length
    (separates : Value → Bool) (pieces : List (List Value)) :
    ((pieces.map (trim separates)).filter fun line =>
        !line.isEmpty).length ≤
        (pieces.flatMap (fields separates)).length ∧
      ((pieces.flatMap (fields separates)).length ≤
          ((pieces.map (trim separates)).filter fun line =>
            !line.isEmpty).length →
        ∀ line ∈ (pieces.map (trim separates)).filter fun line =>
            !line.isEmpty,
          Free separates line) := by
  induction pieces with
  | nil => simp
  | cons piece pieces induction =>
      rcases induction with ⟨atMost, allFree⟩
      rw [List.map_cons, List.flatMap_cons, List.length_append]
      by_cases empty : trim separates piece = []
      · rw [List.filter_cons_of_neg (by simp [empty]),
          fields_of_trim_nil empty, List.length_nil, Nat.zero_add]
        exact ⟨atMost, allFree⟩
      · rw [List.filter_cons_of_pos (by simpa using empty),
          List.length_cons, List.forall_mem_cons]
        by_cases free : Free separates (trim separates piece)
        · rw [fields_of_trim_free empty free, List.length_singleton]
          refine ⟨by omega, fun few => ⟨free, allFree (by omega)⟩⟩
        · have several := two_le_length_fields free
          exact ⟨by omega, fun few => by omega⟩

/-- As many lines as fields: no line holds a separator. -/
theorem free_of_length_le
    (coarser : ∀ value, ends value = true → separates value = true)
    {text : List Value}
    (few :
      (fields separates text).length ≤
        (lines ends separates text).length) :
    ∀ line ∈ lines ends separates text, Free separates line := by
  rw [fields_eq_flatMap coarser] at few
  exact (pieces_length separates _).2 few

/-- Where no line holds a separator, the lines are the fields. -/
theorem lines_eq_fields
    (coarser : ∀ value, ends value = true → separates value = true)
    {text : List Value}
    (free : ∀ line ∈ lines ends separates text, Free separates line) :
    lines ends separates text = fields separates text := by
  rw [fields_eq_flatMap coarser]
  unfold lines at free ⊢
  generalize text.splitOnP ends = pieces at free ⊢
  induction pieces with
  | nil => rfl
  | cons piece pieces induction =>
      rw [List.map_cons] at free ⊢
      rw [List.flatMap_cons]
      by_cases empty : trim separates piece = []
      · rw [List.filter_cons_of_neg (by simp [empty])] at free ⊢
        rw [fields_of_trim_nil empty, List.nil_append]
        exact induction free
      · rw [List.filter_cons_of_pos (by simpa using empty)] at free ⊢
        rw [List.forall_mem_cons] at free
        rw [fields_of_trim_free empty free.1, List.singleton_append,
          induction free.2]

end Lines

end KairosDeploy.Library.Fields
