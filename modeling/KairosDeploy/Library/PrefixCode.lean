import Mathlib

/-!
# Prefix codes

A code is a set of words none of which is empty or begins another one.  The
words of a concatenation can then be cut off one by one, so that it determines
them.  Two codes are ready for use: the words of one length, and the words that
say their length in front.
-/

namespace KairosDeploy.Library.PrefixCode

open InformationTheory

universe u v

/-- No word is empty, and none begins another one. -/
structure IsPrefixCode
    {Symbol : Type u} (words : Set (List Symbol)) : Prop where
  nonempty : [] ∉ words
  prefixFree :
    ∀ one ∈ words, ∀ other ∈ words, one <+: other → one = other

section Decoding

variable {Symbol : Type u} {words : Set (List Symbol)}

theorem IsPrefixCode.mono
    {fewer : Set (List Symbol)} (code : IsPrefixCode words)
    (included : fewer ⊆ words) :
    IsPrefixCode fewer where
  nonempty := fun empty => code.nonempty (included empty)
  prefixFree := by
    intro one oneWord other otherWord begins
    exact
      code.prefixFree one (included oneWord) other (included otherWord)
        begins

/-- The first word of two equal texts is the same, and so is what follows. -/
theorem IsPrefixCode.append_inj
    (code : IsPrefixCode words) {one other : List Symbol}
    (oneWord : one ∈ words) (otherWord : other ∈ words)
    {rest more : List Symbol} (same : one ++ rest = other ++ more) :
    one = other ∧ rest = more := by
  have equal : one = other := by
    rcases List.prefix_or_prefix_of_prefix
        (List.prefix_append one rest)
        (same ▸ List.prefix_append other more) with
      begins | begins
    · exact code.prefixFree one oneWord other otherWord begins
    · exact (code.prefixFree other otherWord one oneWord begins).symm
  subst equal
  exact ⟨rfl, List.append_cancel_left same⟩

theorem IsPrefixCode.uniquelyDecodable
    (code : IsPrefixCode words) :
    UniquelyDecodable words := by
  intro left
  induction left with
  | nil =>
      intro right _ rightWords same
      cases right with
      | nil => rfl
      | cons word rest =>
          rw [List.forall_mem_cons] at rightWords
          have empty : word = [] := by
            rw [List.flatten_nil, List.flatten_cons, eq_comm,
              List.append_eq_nil_iff] at same
            exact same.1
          exact absurd (empty ▸ rightWords.1) code.nonempty
  | cons word rest induction =>
      intro right leftWords rightWords same
      rw [List.forall_mem_cons] at leftWords
      cases right with
      | nil =>
          have empty : word = [] := by
            rw [List.flatten_nil, List.flatten_cons,
              List.append_eq_nil_iff] at same
            exact same.1
          exact absurd (empty ▸ leftWords.1) code.nonempty
      | cons other more =>
          rw [List.forall_mem_cons] at rightWords
          rw [List.flatten_cons, List.flatten_cons] at same
          rcases code.append_inj leftWords.1 rightWords.1 same with
            ⟨rfl, remaining⟩
          rw [induction more leftWords.2 rightWords.2 remaining]

/-- Values determine the members of a list as far as they are injective. -/
theorem eq_of_map_eq
    {Source : Type v} {Target : Type u} {value : Source → Target}
    {members : Set Source} (injective : Set.InjOn value members)
    {left right : List Source}
    (leftMembers : ∀ source ∈ left, source ∈ members)
    (rightMembers : ∀ source ∈ right, source ∈ members)
    (same : left.map value = right.map value) :
    left = right := by
  induction left generalizing right with
  | nil => exact (List.map_eq_nil_iff.1 same.symm).symm
  | cons source rest induction =>
      rw [List.forall_mem_cons] at leftMembers
      rcases List.map_eq_cons_iff.1 same.symm with
        ⟨other, more, rfl, equal, remaining⟩
      rw [List.forall_mem_cons] at rightMembers
      rw [injective leftMembers.1 rightMembers.1 equal.symm,
        induction leftMembers.2 rightMembers.2 remaining.symm]

/-- The concatenation of the words of some members determines the members. -/
theorem IsPrefixCode.flatMap_inj
    {Source : Type v} {encode : Source → List Symbol} {members : Set Source}
    (code : IsPrefixCode (encode '' members))
    (injective : Set.InjOn encode members)
    {left right : List Source}
    (leftMembers : ∀ source ∈ left, source ∈ members)
    (rightMembers : ∀ source ∈ right, source ∈ members)
    (same : left.flatMap encode = right.flatMap encode) :
    left = right := by
  have encoded :
      ∀ sources : List Source, (∀ source ∈ sources, source ∈ members) →
        ∀ word ∈ sources.map encode, word ∈ encode '' members := by
    intro sources inMembers word member
    rcases List.mem_map.1 member with ⟨source, listed, rfl⟩
    exact ⟨source, inMembers source listed, rfl⟩
  rw [List.flatMap_def, List.flatMap_def] at same
  have words : left.map encode = right.map encode :=
    code.uniquelyDecodable _ _ (encoded left leftMembers)
      (encoded right rightMembers) same
  exact eq_of_map_eq injective leftMembers rightMembers words

/-- Words of one positive length. -/
theorem isPrefixCode_of_width {width : Nat} (positive : 0 < width) :
    IsPrefixCode { word : List Symbol | word.length = width } where
  nonempty := by
    intro empty
    exact positive.ne empty
  prefixFree := by
    intro one oneWidth other otherWidth begins
    exact begins.eq_of_length (oneWidth.trans otherWidth.symm)

end Decoding

/-! ## Words that say their length -/

section Framing

variable {Symbol : Type u} (header : Nat → List Symbol)

/-- A body behind the header of its length. -/
def framed (body : List Symbol) : List Symbol :=
  header body.length ++ body

variable {header} {width bound : Nat}

/-- Headers of one width that tell the lengths below a bound apart. -/
structure Headers
    (header : Nat → List Symbol) (width bound : Nat) : Prop where
  width_pos : 0 < width
  length_header : ∀ length, (header length).length = width
  injOn : Set.InjOn header { length | length < bound }

theorem Headers.eq_of_framed_prefix
    (headers : Headers header width bound) {one other : List Symbol}
    (oneSmall : one.length < bound) (otherSmall : other.length < bound)
    (begins : framed header one <+: framed header other) :
    one = other := by
  rcases begins with ⟨rest, same⟩
  unfold framed at same
  rw [List.append_assoc] at same
  rcases
    List.append_inj same
      ((headers.length_header _).trans (headers.length_header _).symm) with
    ⟨sameHeader, sameBody⟩
  have sameLength : one.length = other.length :=
    headers.injOn oneSmall otherSmall sameHeader
  rw [← List.append_nil other] at sameBody
  exact List.append_inj_left sameBody sameLength

theorem Headers.isPrefixCode
    (headers : Headers header width bound) :
    IsPrefixCode (framed header '' { body | body.length < bound }) where
  nonempty := by
    rintro ⟨body, _, empty⟩
    have positive := headers.width_pos
    rw [framed, List.append_eq_nil_iff] at empty
    rw [← headers.length_header body.length, empty.1] at positive
    exact positive.false
  prefixFree := by
    rintro _ ⟨one, oneSmall, rfl⟩ _ ⟨other, otherSmall, rfl⟩ begins
    rw [headers.eq_of_framed_prefix oneSmall otherSmall begins]

theorem Headers.framed_injOn
    (headers : Headers header width bound) :
    Set.InjOn (framed header) { body | body.length < bound } := by
  intro one oneSmall other otherSmall same
  exact
    headers.eq_of_framed_prefix oneSmall otherSmall
      (same ▸ List.prefix_rfl)

/-- Framed bodies can be recovered from their concatenation. -/
theorem Headers.flatMap_framed_inj
    (headers : Headers header width bound) {left right : List (List Symbol)}
    (leftSmall : ∀ body ∈ left, body.length < bound)
    (rightSmall : ∀ body ∈ right, body.length < bound)
    (same : left.flatMap (framed header) = right.flatMap (framed header)) :
    left = right :=
  headers.isPrefixCode.flatMap_inj headers.framed_injOn leftSmall rightSmall
    same

end Framing

end KairosDeploy.Library.PrefixCode
