import Mathlib

/-!
# Hexadecimal digests

A hash function of byte strings that gives 64 lower-case hexadecimal digits.
Nothing is assumed about its collisions here; where a result needs that two
texts with one digest are one text, it says so for these texts.
-/

namespace KairosDeploy.Library.HexDigest

/-- `^[0-9a-f]{64}$` on the whole text. -/
def isSha256 (text : String) : Bool :=
  text.toList.length = 64 &&
    text.toList.all fun character =>
      character.isDigit || 'a' ≤ character && character ≤ 'f'

/-- `[0-9a-f]{count}` on the whole text. -/
def isHex (count : Nat) (text : String) : Bool :=
  text.toList.length = count &&
    text.toList.all fun character =>
      character.isDigit || 'a' ≤ character && character ≤ 'f'

/-- `text.encode("utf-8")`. -/
def utf8 (text : String) : List UInt8 :=
  text.toByteArray.data.toList

theorem utf8_injective : Function.Injective utf8 := by
  intro left right equal
  apply String.toByteArray_inj.1
  exact ByteArray.ext (Array.toList_inj.1 equal)

/-- `hashlib.sha256(bytes).hexdigest()`. -/
structure Sha256 where
  hexdigest : List UInt8 → String
  isSha256_hexdigest : ∀ bytes, isSha256 (hexdigest bytes) = true

/-! ## Digests that are known -/

/-- The sixty-four hexadecimal digits of a number. -/
def hexDigits (value : Nat) : List Char :=
  (List.range 64).reverse.map fun index =>
    Nat.digitChar (value / 16 ^ index % 16)

/-- The digest with these digits. -/
@[irreducible] def hexText (value : Nat) : String :=
  String.ofList (hexDigits value)

theorem length_hexText (value : Nat) : (hexText value).toList.length = 64 := by
  unfold hexText
  rw [String.toList_ofList]
  simp [hexDigits]

theorem isSha256_hexText (value : Nat) : isSha256 (hexText value) = true := by
  have digits :
      ∀ digit : Fin 16,
        ((Nat.digitChar digit).isDigit ||
          'a' ≤ Nat.digitChar digit && Nat.digitChar digit ≤ 'f') =
          true := by
    decide
  unfold isSha256
  rw [length_hexText]
  unfold hexText
  rw [String.toList_ofList]
  simp only [decide_true, Bool.true_and, List.all_eq_true]
  intro character member
  rcases List.mem_map.1 member with ⟨index, _, rfl⟩
  exact digits ⟨value / 16 ^ index % 16, Nat.mod_lt _ (by decide)⟩

theorem isSha256_zeros :
    isSha256
        "0000000000000000000000000000000000000000000000000000000000000000" =
      true := by
  rw [isSha256, String.toList_ofList]
  decide

/-- A table of known digests, and one digest for everything else. -/
def tableDigest (table : List (List UInt8 × Nat)) : Sha256 where
  hexdigest bytes := hexText ((table.lookup bytes).getD 0)
  isSha256_hexdigest := fun _ => isSha256_hexText _

/-- The digest that the table gives. -/
theorem hexdigest_tableDigest
    {table : List (List UInt8 × Nat)}
    (distinct : (table.map Prod.fst).Nodup)
    {bytes : List UInt8} {digest : Nat} (known : (bytes, digest) ∈ table) :
    (tableDigest table).hexdigest bytes = hexText digest := by
  have found : table.lookup bytes = some digest := by
    induction table with
    | nil => cases known
    | cons head rest induction =>
        rw [List.map_cons, List.nodup_cons] at distinct
        rw [List.lookup_cons]
        rcases List.mem_cons.1 known with rfl | inRest
        · rw [beq_self_eq_true]
        · have apart : bytes ≠ head.1 := fun same =>
            distinct.1 (same ▸ List.mem_map_of_mem inRest)
          rw [beq_false_of_ne apart]
          exact induction distinct.2 inRest
  unfold tableDigest
  simp only [found, Option.getD_some]

theorem digitChar_inj :
    ∀ left right : Fin 16,
      Nat.digitChar left = Nat.digitChar right → left = right := by
  decide

/-- The digits determine a number that has no more than sixty-four. -/
theorem hexText_inj
    {left right : Nat} (leftSmall : left < 16 ^ 64)
    (rightSmall : right < 16 ^ 64) (same : hexText left = hexText right) :
    left = right := by
  unfold hexText at same
  have lists := String.ofList_injective same
  unfold hexDigits at lists
  rw [List.map_inj_left] at lists
  have digits :
      ∀ index < 64, left / 16 ^ index % 16 = right / 16 ^ index % 16 := by
    intro index small
    have equal := lists index (by simpa using small)
    exact
      Fin.mk.inj
        (digitChar_inj ⟨_, Nat.mod_lt _ (by decide)⟩
          ⟨_, Nat.mod_lt _ (by decide)⟩ equal)
  have lower :
      ∀ count ≤ 64, left % 16 ^ count = right % 16 ^ count := by
    intro count
    induction count with
    | zero => simp [Nat.mod_one]
    | succ count induction =>
        intro bounded
        rw [Nat.mod_pow_succ, Nat.mod_pow_succ, induction (by omega),
          digits count (by omega)]
  have whole := lower 64 le_rfl
  rwa [Nat.mod_eq_of_lt leftSmall, Nat.mod_eq_of_lt rightSmall] at whole

/--
The digests of a table separate texts of which all but one are known, when the
known digests are different and none is the digest of everything else.
-/
theorem eq_of_hexdigest_tableDigest
    {table : List (List UInt8 × Nat)}
    (distinct : (table.map Prod.fst).Nodup)
    (apart : (0 :: table.map Prod.snd).Nodup)
    (small : ∀ digest ∈ table.map Prod.snd, digest < 16 ^ 64)
    {unknown left right : List UInt8}
    (absent : unknown ∉ table.map Prod.fst)
    (leftKnown : left = unknown ∨ left ∈ table.map Prod.fst)
    (rightKnown : right = unknown ∨ right ∈ table.map Prod.fst)
    (same :
      (tableDigest table).hexdigest left =
        (tableDigest table).hexdigest right) :
    left = right := by
  have everythingElse :
      (tableDigest table).hexdigest unknown = hexText 0 := by
    have missing : table.lookup unknown = none := by
      rw [List.lookup_eq_none_iff]
      intro entry member
      rw [bne_iff_ne]
      exact fun equal => absent (equal ▸ List.mem_map_of_mem member)
    simp only [tableDigest, missing, Option.getD_none]
  have digestOf :
      ∀ {text : List UInt8}, text ∈ table.map Prod.fst →
        ∃ digest, (text, digest) ∈ table ∧
          (tableDigest table).hexdigest text = hexText digest := by
    intro text known
    rcases List.mem_map.1 known with ⟨⟨bytes, digest⟩, member, rfl⟩
    exact ⟨digest, member, hexdigest_tableDigest distinct member⟩
  rw [List.nodup_cons] at apart
  have notZero :
      ∀ {text : List UInt8}, text ∈ table.map Prod.fst →
        (tableDigest table).hexdigest text ≠ hexText 0 := by
    intro text known equal
    rcases digestOf known with ⟨digest, member, digested⟩
    rw [digested] at equal
    have listed : digest ∈ table.map Prod.snd := List.mem_map_of_mem member
    exact
      apart.1 (hexText_inj (small _ listed) (by decide) equal ▸ listed)
  rcases leftKnown with rfl | leftKnown
  · rcases rightKnown with rfl | rightKnown
    · rfl
    · exact absurd (same.symm.trans everythingElse) (notZero rightKnown)
  · rcases rightKnown with rfl | rightKnown
    · exact absurd (same.trans everythingElse) (notZero leftKnown)
    · rcases digestOf leftKnown with ⟨digest, member, digested⟩
      rcases digestOf rightKnown with ⟨other, otherMember, otherDigested⟩
      rw [digested, otherDigested] at same
      have equal :=
        hexText_inj (small _ (List.mem_map_of_mem member))
          (small _ (List.mem_map_of_mem otherMember)) same
      exact
        congrArg Prod.fst
          (List.inj_on_of_nodup_map apart.2 member otherMember equal)

theorem utf8_ofList (text : List Char) :
    utf8 (String.ofList text) = text.flatMap String.utf8EncodeChar := by
  unfold utf8
  rw [String.toByteArray_ofList]
  simp [List.utf8Encode]

/-- A character takes at most four bytes. -/
theorem length_utf8_le (text : List Char) :
    (utf8 (String.ofList text)).length ≤ 4 * text.length := by
  rw [utf8_ofList]
  induction text with
  | nil => simp
  | cons head rest induction =>
      have one : (String.utf8EncodeChar head).length ≤ 4 := by
        rw [String.length_utf8EncodeChar]
        exact Char.utf8Size_le_four head
      rw [List.flatMap_cons, List.length_append, List.length_cons]
      omega

end KairosDeploy.Library.HexDigest
