import KairosDeploy.Library.HexDigest

/-!
# Bytes and characters of texts

Strict decoding of UTF-8: what decodes to a text is the encoding of that text
and nothing else.  The characters of a text that is written out are known
without decoding its bytes.
-/

namespace KairosDeploy.Library.TextBytes

open KairosDeploy.Library.HexDigest (utf8)

/-- `bytes.decode("utf-8", errors="strict")`. -/
def decode (bytes : List UInt8) : Option String :=
  String.fromUTF8? bytes.toByteArray

/-- What decodes to a text is its encoding. -/
theorem decode_eq_some_iff (bytes : List UInt8) (text : String) :
    decode bytes = some text ↔ bytes = utf8 text := by
  have whole : (utf8 text).toByteArray = text.toByteArray := by
    apply ByteArray.ext
    simp [utf8]
  unfold decode String.fromUTF8?
  constructor
  · intro decoded
    split at decoded
    · cases decoded
      simp [utf8, String.fromUTF8]
    · cases decoded
  · rintro rfl
    rw [whole, dif_pos text.isValidUTF8]
    rfl

@[simp]
theorem decode_utf8 (text : String) : decode (utf8 text) = some text :=
  (decode_eq_some_iff _ text).2 rfl

/-! ## Texts that are written out -/

theorem toList_append_of
    {left right : String} {front back : List Char}
    (start : left.toList = front) (rest : right.toList = back) :
    (left ++ right).toList = front ++ back := by
  rw [String.toList_append, start, rest]

theorem mem_toList_append
    (start : String) {character : Char} {characters : List Char}
    (present : character ∈ characters) :
    character ∈ (start ++ String.ofList characters).toList := by
  rw [String.toList_append, String.toList_ofList]
  exact List.mem_append_right _ present

theorem notMem_toList
    {character : Char} {characters : List Char}
    (absent : character ∉ characters) :
    character ∉ (String.ofList characters).toList := by
  rwa [String.toList_ofList]

end KairosDeploy.Library.TextBytes
