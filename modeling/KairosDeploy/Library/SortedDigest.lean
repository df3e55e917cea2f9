import KairosDeploy.Library.PrefixCode

/-!
# Digests of unordered tables

A table has no order, so its digest hashes every row, sorts the row hashes,
and hashes their concatenation.  The result does not depend on the order of
the rows.  Row hashes have one length, so the concatenation can be cut up
again: as far as the hash does not collide on the texts that it is given, the
digest determines the table up to order.  Both hold whatever order the hashes
are sorted by, as long as it is total and tells different texts apart.
-/

namespace KairosDeploy.Library.SortedDigest

open KairosDeploy.Library.PrefixCode

universe u v

/-- A function that takes different values on different members of a list. -/
def Separates
    {Source : Type u} {Target : Type v} (value : Source → Target)
    (members : List Source) : Prop :=
  ∀ one ∈ members, ∀ other ∈ members, value one = value other → one = other

theorem Separates.mono
    {Source : Type u} {Target : Type v} {value : Source → Target}
    {smaller larger : List Source}
    (separates : Separates value larger) (included : smaller ⊆ larger) :
    Separates value smaller :=
  fun one oneMember other otherMember =>
    separates one (included oneMember) other (included otherMember)

/-- Lists whose values agree up to order agree up to order. -/
theorem perm_of_map_perm
    {Source : Type u} {Target : Type v} {value : Source → Target}
    {left right : List Source}
    (separates : Separates value (left ++ right))
    (mapped : (left.map value).Perm (right.map value)) :
    left.Perm right := by
  induction left generalizing right with
  | nil =>
      have empty := mapped.symm.eq_nil
      rw [List.map_eq_nil_iff] at empty
      rw [empty]
  | cons head rest induction =>
      have present : value head ∈ right.map value :=
        mapped.subset List.mem_cons_self
      rcases List.mem_map.1 present with ⟨other, otherMember, equal⟩
      have same : other = head :=
        separates other (List.mem_append_right _ otherMember) head
          (by simp) equal
      subst same
      rcases List.append_of_mem otherMember with ⟨front, back, rfl⟩
      have shorter :
          (rest.map value).Perm ((front ++ back).map value) := by
        rw [List.map_append, List.map_cons] at mapped
        rw [List.map_append]
        exact (mapped.trans List.perm_middle).cons_inv
      have included :
          rest ++ (front ++ back) ⊆
            other :: rest ++ (front ++ other :: back) := by
        intro row member
        simp only [List.mem_append, List.mem_cons] at member ⊢
        tauto
      exact
        ((induction (separates.mono included) shorter).cons other).trans
          List.perm_middle.symm

/-- A hash function with results of one positive length. -/
structure FixedHash where
  hex : String → String
  width : Nat
  length_hex : ∀ text, (hex text).length = width
  width_pos : 0 < width

/-- SHA-256 has 64 digits. -/
theorem sha256Width_pos : 0 < 64 := by
  decide

/-- An order by which texts are sorted. -/
structure Collation where
  le : String → String → Prop
  decidable : DecidableRel le
  total : ∀ left right, le left right ∨ le right left
  trans :
    ∀ first second third, le first second → le second third →
      le first third
  antisymm : ∀ left right, le left right → le right left → left = right

attribute [instance] Collation.decidable

/-- The order by code points. -/
def codePoints : Collation where
  le := (· ≤ ·)
  decidable := inferInstance
  total := le_total
  trans := fun _ _ _ => le_trans
  antisymm := fun _ _ => le_antisymm

namespace Collation

variable (collation : Collation)

/-- The texts in the order of the collation. -/
def sorted (texts : List String) : List String :=
  texts.insertionSort collation.le

theorem sorted_perm (texts : List String) :
    (collation.sorted texts).Perm texts :=
  List.perm_insertionSort _ _

/-- What is sorted does not depend on the order that it had. -/
theorem sorted_eq_of_perm {left right : List String} (same : left.Perm right) :
    collation.sorted left = collation.sorted right := by
  have total : Std.Total collation.le := ⟨collation.total⟩
  have trans : IsTrans String collation.le := ⟨collation.trans⟩
  have antisymm : Std.Antisymm collation.le := ⟨collation.antisymm⟩
  refine List.Perm.eq_of_pairwise' (r := collation.le) ?_ ?_ ?_
  · exact List.pairwise_insertionSort _ _
  · exact List.pairwise_insertionSort _ _
  · exact
      (collation.sorted_perm left).trans
        (same.trans (collation.sorted_perm right).symm)

end Collation

section Digest

variable {Row : Type u} (hash : FixedHash) (text : Row → String)

/-- The row hashes, in order. -/
def rowHashes (rows : List Row) : List String :=
  (rows.map fun row => hash.hex (text row)).insertionSort (· ≤ ·)

/-- The concatenation of the row hashes. -/
def joinedHashes (rows : List Row) : String :=
  String.join (rowHashes hash text rows)

/-- The digest of a table. -/
def sortedDigest (rows : List Row) : String :=
  hash.hex (joinedHashes hash text rows)

/-- The texts that are hashed for the digest of a table. -/
def hashedTexts (rows : List Row) : List String :=
  joinedHashes hash text rows :: rows.map text

variable (collation : Collation)

/-- The concatenation of the row hashes, sorted by a collation. -/
def collatedHashes (rows : List Row) : String :=
  String.join (collation.sorted (rows.map fun row => hash.hex (text row)))

/-- The digest of a table whose row hashes are sorted by a collation. -/
def collatedDigest (rows : List Row) : String :=
  hash.hex (collatedHashes hash text collation rows)

/-- The texts that are hashed for it. -/
def collatedTexts (rows : List Row) : List String :=
  collatedHashes hash text collation rows :: rows.map text

end Digest

section Properties

variable {Row : Type u} {hash : FixedHash} {text : Row → String}
    {collation : Collation} {left right : List Row}

/-- The digest does not depend on the order of the rows. -/
theorem collatedDigest_eq_of_perm (same : left.Perm right) :
    collatedDigest hash text collation left =
      collatedDigest hash text collation right := by
  have hashes :=
    collation.sorted_eq_of_perm (same.map fun row => hash.hex (text row))
  rw [collatedDigest, collatedHashes, hashes]
  rfl

/-- Pieces of one positive length can be recovered from their concatenation. -/
theorem eq_of_join_eq
    {width : Nat} (positive : 0 < width) {first second : List String}
    (firstWidth : ∀ piece ∈ first, piece.length = width)
    (secondWidth : ∀ piece ∈ second, piece.length = width)
    (joined : String.join first = String.join second) :
    first = second := by
  have injective : Function.Injective String.toList :=
    fun _ _ => String.toList_inj.1
  have code :
      IsPrefixCode
        (String.toList '' { piece | piece.length = width }) := by
    apply (isPrefixCode_of_width positive).mono
    rintro _ ⟨piece, length, rfl⟩
    exact String.length_toList.trans length
  have lists := congrArg String.toList joined
  rw [String.toList_join, String.toList_join] at lists
  exact code.flatMap_inj injective.injOn firstWidth secondWidth lists

/-- The row hashes can be recovered from their concatenation. -/
theorem collatedHashes_perm
    (joined :
      collatedHashes hash text collation left =
        collatedHashes hash text collation right) :
    (left.map fun row => hash.hex (text row)).Perm
      (right.map fun row => hash.hex (text row)) := by
  have width :
      ∀ rows : List Row,
        ∀ piece ∈ collation.sorted (rows.map fun row => hash.hex (text row)),
          piece.length = hash.width := by
    intro rows piece member
    rcases List.mem_map.1 ((collation.sorted_perm _).subset member) with
      ⟨row, _, rfl⟩
    exact hash.length_hex _
  have hashes := eq_of_join_eq hash.width_pos (width left) (width right) joined
  exact
    (collation.sorted_perm _).symm.trans
      (hashes ▸ collation.sorted_perm _)

theorem mem_collatedTexts_append
    {row : Row} (member : row ∈ left ++ right) :
    text row ∈
      collatedTexts hash text collation left ++
        collatedTexts hash text collation right := by
  rcases List.mem_append.1 member with inLeft | inRight
  · refine List.mem_append_left _ (List.mem_cons_of_mem _ ?_)
    exact List.mem_map_of_mem inLeft
  · refine List.mem_append_right _ (List.mem_cons_of_mem _ ?_)
    exact List.mem_map_of_mem inRight

/-- Without collisions, tables with one digest have the same rows. -/
theorem perm_of_collatedDigest_eq
    (collisionFree :
      Separates hash.hex
        (collatedTexts hash text collation left ++
          collatedTexts hash text collation right))
    (faithful : Separates text (left ++ right))
    (same :
      collatedDigest hash text collation left =
        collatedDigest hash text collation right) :
    left.Perm right := by
  have joined :
      collatedHashes hash text collation left =
        collatedHashes hash text collation right :=
    collisionFree _ (by simp [collatedTexts]) _ (by simp [collatedTexts]) same
  have separates :
      Separates (fun row => hash.hex (text row)) (left ++ right) := by
    intro one oneMember other otherMember equal
    refine faithful one oneMember other otherMember ?_
    refine collisionFree _ ?_ _ ?_ equal
    · exact mem_collatedTexts_append oneMember
    · exact mem_collatedTexts_append otherMember
  exact perm_of_map_perm separates (collatedHashes_perm joined)

/-- The digest by code points is a collated one. -/
theorem collatedDigest_codePoints (rows : List Row) :
    collatedDigest hash text codePoints rows = sortedDigest hash text rows :=
  rfl

theorem rowHashes_perm (rows : List Row) :
    (rowHashes hash text rows).Perm
      (rows.map fun row => hash.hex (text row)) :=
  codePoints.sorted_perm _

theorem perm_of_sortedDigest_eq
    (collisionFree :
      Separates hash.hex
        (hashedTexts hash text left ++ hashedTexts hash text right))
    (faithful : Separates text (left ++ right))
    (same : sortedDigest hash text left = sortedDigest hash text right) :
    left.Perm right := by
  have collated :
      Separates hash.hex
        (collatedTexts hash text codePoints left ++
          collatedTexts hash text codePoints right) :=
    collisionFree
  exact perm_of_collatedDigest_eq collated faithful same

end Properties

end KairosDeploy.Library.SortedDigest
