import MovieCatalogue.Json.Printer
import MovieCatalogue.Json.Selection

/-!
Contract: strings that are written and read again, and strings as bytes.

Owns: that the written form of each character is read as this character, and with it
that every string reads back from its written form, whatever text follows it; that the
bytes of a text stand for it; and that a byte that belongs to no character is passed over
in skipped strings and refused in all others.
Does not own: the other escapes that the reader takes.
-/

namespace MovieCatalogue.Json

/-- The number of a list of four hexadecimal digits. -/
private def hexOf? : List Char → Option Nat
  | [a, b, c, d] => hexFour? a b c d
  | _ => none

/-- The escape of a character below U+0020 is four digits that denote it. -/
private theorem fourHexDigits_spec {n : Nat} (low : n < 32) :
    ∃ a b c d, fourHexDigits n = [a, b, c, d] ∧ hexFour? a b c d = some n := by
  have each : ∀ n, n < 32 → hexOf? (fourHexDigits n) = some n := by decide
  have here := each n low
  unfold hexOf? at here
  split at here
  · rename_i a b c d shape
    exact ⟨a, b, c, d, shape, here⟩
  · cases here

/-- The written form of a character is read as this character. -/
private theorem readString_escapedChar (c : Char) (tail : List Char) :
    readString (escapedChar c ++ tail) =
      (readString tail).map fun found => (c :: found.1, found.2) := by
  unfold escapedChar
  split
  case isTrue quote =>
      rw [quote, List.cons_append, readString]
      rfl
  case isFalse notQuote =>
  split
  case isTrue backslash =>
      rw [backslash, List.cons_append, readString]
      rfl
  case isFalse notBackslash =>
  split
  case isTrue backspace =>
      rw [backspace, List.cons_append, readString]
      rfl
  split
  case isTrue tab =>
      rw [tab, List.cons_append, readString]
      rfl
  split
  case isTrue lineFeed =>
      rw [lineFeed, List.cons_append, readString]
      rfl
  split
  case isTrue formFeed =>
      rw [formFeed, List.cons_append, readString]
      rfl
  split
  case isTrue carriageReturn =>
      rw [carriageReturn, List.cons_append, readString]
      rfl
  split
  case isTrue low =>
      obtain ⟨a, b, d, e, digits, value⟩ := fourHexDigits_spec low
      have noSurrogate : ¬ (0xD800 ≤ c.toNat ∧ c.toNat ≤ 0xDBFF) := by omega
      have noHalf : ¬ (0xDC00 ≤ c.toNat ∧ c.toNat ≤ 0xDFFF) := by omega
      rw [digits]
      simp only [List.cons_append, List.nil_append]
      rw [readString]
      simp only [readEscape?, value, if_neg noSurrogate, if_neg noHalf, Char.ofNat_toNat]
  case isFalse high =>
      rw [List.cons_append, List.nil_append, readString]
      · rw [if_neg high]
      · exact notQuote
      · exact notBackslash

/-- The written form of characters up to the closing quotation mark is read as them. -/
theorem readString_escaped (cs rest : List Char) :
    readString (cs.flatMap escapedChar ++ '"' :: rest) = .ok (cs, rest) := by
  induction cs with
  | nil =>
      rw [List.flatMap_nil, List.nil_append, readString]
  | cons c cs inductionHypothesis =>
      rw [List.flatMap_cons, List.append_assoc, readString_escapedChar, inductionHypothesis]
      rfl

theorem toList_stringText (s : String) :
    (stringText s).toList = '"' :: (s.toList.flatMap escapedChar ++ ['"']) := by
  rw [stringText, String.toList_ofList, List.cons_append]

/-! ## Bytes -/

theorem charsFrom_of_extract {bytes : ByteArray} {place : Nat} {cs : List Char}
    (rest : bytes.extract place bytes.size = cs.utf8Encode) : charsFrom bytes place = cs := by
  induction cs generalizing place with
  | nil =>
      have atEnd : ¬ place < bytes.size := by
        have noRest := congrArg ByteArray.size rest
        rw [ByteArray.size_extract, List.utf8Encode_nil, ByteArray.size_empty] at noRest
        omega
      rw [charsFrom, if_neg atEnd]
  | cons c cs inductionHypothesis =>
      have decoded : bytes.utf8DecodeChar? place = some c := by
        rw [ByteArray.utf8DecodeChar?_eq_utf8DecodeChar?_extract, rest]
        exact List.utf8DecodeChar?_utf8Encode_cons
      have width : [c].utf8Encode.size = c.utf8Size := by
        rw [List.utf8Encode_singleton, List.size_toByteArray, String.length_utf8EncodeChar]
      have positive := c.utf8Size_pos
      rw [List.utf8Encode_cons] at rest
      have length := congrArg ByteArray.size rest
      rw [ByteArray.size_extract, ByteArray.size_append, width] at length
      have here : place < bytes.size := by omega
      have behind : bytes.extract (place + c.utf8Size) bytes.size = cs.utf8Encode := by
        have dropped := congrArg (·.extract c.utf8Size (bytes.size - place)) rest
        rw [ByteArray.extract_extract, Nat.add_sub_cancel' (Nat.le_of_lt here), Nat.min_self,
          ByteArray.extract_append_eq_right width.symm (by omega)] at dropped
        exact dropped
      rw [charsFrom, if_pos here, decoded]
      exact congrArg (c :: ·) (inductionHypothesis behind)

/-- The bytes of a text stand for this text. -/
theorem textOfBytes_toUTF8 (s : String) : textOfBytes s.toUTF8 = s := by
  have all : s.toUTF8.extract 0 s.toUTF8.size = s.toList.utf8Encode := by
    rw [ByteArray.extract_zero_size, String.utf8Encode_toList]
    rfl
  rw [textOfBytes, charsFrom_of_extract all, String.ofList_toList]

section

variable {bytes : ByteArray} {place : Nat} (here : place < bytes.size)
  (stray : bytes.utf8DecodeChar? place = none)
include here stray

theorem charsFrom_of_stray : charsFrom bytes place = strayMark ++ charsFrom bytes (place + 1) := by
  rw [charsFrom, if_pos here, stray]

/-- A byte that belongs to no character is passed over in a string that nobody asks for. -/
theorem skipString_of_stray :
    skipString (charsFrom bytes place) = skipString (charsFrom bytes (place + 1)) := by
  rw [charsFrom_of_stray here stray]
  rfl

/-- A string with such a byte cannot be read. -/
theorem readString_of_stray : ∃ fault, readString (charsFrom bytes place) = .error fault := by
  rw [charsFrom_of_stray here stray, strayMark, List.cons_append, readString, if_neg (by decide)]
  · rw [List.cons_append, readString]
    exact ⟨_, rfl⟩
  · decide
  · decide

end

end MovieCatalogue.Json
