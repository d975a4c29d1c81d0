/-
# Reading a body back

The reader of the urlencoded format, as a server would use it: a body is cut at
every `&`, each piece that is not empty at its first `=`, and names and values are
brought back byte by byte and read as UTF-8. What was written is read back, for
all pairs of texts, because the separators never occur in what is written for a
name or a value.
-/

import Mathlib.Tactic.IntervalCases
import Questionnaire.FormEncoding
import Questionnaire.Proofs.FirstFailure
import Questionnaire.Proofs.Text.Splitting

namespace Questionnaire

/-- A hexadecimal digit has the value that it was written for. -/
theorem Text.hexDigitValue?_upperHexDigit {n : Nat} (small : n < 16) :
    hexDigitValue? (upperHexDigit n) = some n := by
  interval_cases n <;> rfl

namespace FormEncoding

/-- The bytes that a name or a value stands for. A percent sign without two hexadecimal
digits after it stands for itself. -/
def decodeBytes : List Char → List UInt8
  | [] => []
  | '%' :: high :: low :: rest =>
    match Text.hexDigitValue? high, Text.hexDigitValue? low with
    | some upper, some lower => UInt8.ofNat (16 * upper + lower) :: decodeBytes rest
    | _, _ => 0x25 :: decodeBytes (high :: low :: rest)
  | '+' :: rest => 0x20 :: decodeBytes rest
  | c :: rest => String.utf8EncodeChar c ++ decodeBytes rest

/-- The text that a name or a value stands for, if its bytes are UTF-8. -/
def decodeText? (characters : List Char) : Option String :=
  String.fromUTF8? (decodeBytes characters).toByteArray

/-- The pair that a piece of a body stands for. Without `=` the value is empty. -/
def decodePair? (piece : List Char) : Option (String × String) := do
  let name ← decodeText? (piece.takeWhile (· != '='))
  let value ← decodeText? ((piece.dropWhile (· != '=')).drop 1)
  return (name, value)

/-- The pairs that a body stands for, in order. -/
def decodePairs? (body : String) : Option (List (String × String)) :=
  ((Text.splitAtEvery (· == '&') body.toList).filter (fun piece => !piece.isEmpty)).mapM
    decodePair?

/-! ## Bytes -/

theorem isPlain_upperHexDigit {n : Nat} (small : n < 16) :
    isPlain (Text.upperHexDigit n) = true := by
  interval_cases n <;> rfl

/-- The characters of ASCII have one byte. -/
theorem utf8EncodeChar_ofNat_toNat {byte : UInt8} (ascii : byte.toNat < 0x80) :
    String.utf8EncodeChar (Char.ofNat byte.toNat) = [byte] := by
  have valid : byte.toNat.isValidChar := Or.inl (by omega)
  have value : (Char.ofNat byte.toNat).val = byte.toUInt32 := by
    rw [Char.ofNat, dif_pos valid]
    rfl
  have short : (Char.ofNat byte.toNat).utf8Size = 1 := by
    rw [Char.utf8Size_eq_one_iff, value, UInt32.le_iff_toNat_le, UInt8.toNat_toUInt32]
    exact Nat.le_of_lt_succ ascii
  rw [String.utf8EncodeChar_eq_singleton short, value, UInt8.toUInt8_toUInt32]

/-- A byte is written as a plain character of its own, as a plus sign or as its two
digits. -/
theorem encodeByte_cases (byte : UInt8) :
    (∃ c, isPlain c = true ∧ String.utf8EncodeChar c = [byte] ∧ encodeByte byte = [c]) ∨
      (byte = 0x20 ∧ encodeByte byte = ['+']) ∨
      encodeByte byte =
        ['%', Text.upperHexDigit (byte.toNat / 16), Text.upperHexDigit (byte.toNat % 16)] := by
  by_cases plain : (byte.toNat < 0x80 && isPlain (Char.ofNat byte.toNat)) = true
  · have parts := Bool.and_eq_true_iff.mp plain
    refine Or.inl ⟨Char.ofNat byte.toNat, parts.2, ?_, if_pos plain⟩
    exact utf8EncodeChar_ofNat_toNat (of_decide_eq_true parts.1)
  · by_cases space : byte = 0x20
    · refine Or.inr (Or.inl ⟨space, ?_⟩)
      rw [encodeByte, if_neg plain, if_pos space]
    · refine Or.inr (Or.inr ?_)
      rw [encodeByte, if_neg plain, if_neg space]

/-- A character that is no plus sign and no percent sign stands for its own bytes. -/
theorem decodeBytes_cons_of_isPlain {c : Char} (plain : isPlain c = true) (rest : List Char) :
    decodeBytes (c :: rest) = String.utf8EncodeChar c ++ decodeBytes rest := by
  have noPercent : c ≠ '%' := by
    rintro rfl
    exact absurd plain (by decide)
  have noPlus : c ≠ '+' := by
    rintro rfl
    exact absurd plain (by decide)
  rw [decodeBytes]
  · exact fun _ _ _ same => absurd same noPercent
  · exact noPlus

/-- A byte that was written is read back. -/
theorem decodeBytes_encodeByte_append (byte : UInt8) (rest : List Char) :
    decodeBytes (encodeByte byte ++ rest) = byte :: decodeBytes rest := by
  rcases encodeByte_cases byte with ⟨c, plain, bytes, written⟩ | ⟨rfl, written⟩ | written
  · rw [written, List.singleton_append, decodeBytes_cons_of_isPlain plain, bytes,
      List.singleton_append]
  · rw [written, List.singleton_append, decodeBytes]
  · have below := byte.toNat_lt
    have upper := Text.hexDigitValue?_upperHexDigit (n := byte.toNat / 16) (by omega)
    have lower := Text.hexDigitValue?_upperHexDigit (n := byte.toNat % 16) (by omega)
    have whole : 16 * (byte.toNat / 16) + byte.toNat % 16 = byte.toNat :=
      Nat.div_add_mod byte.toNat 16
    simp only [written, List.cons_append, List.nil_append, decodeBytes, upper, lower, whole,
      UInt8.ofNat_toNat]

theorem decodeBytes_flatMap_encodeByte (bytes : List UInt8) :
    decodeBytes (bytes.flatMap encodeByte) = bytes := by
  induction bytes with
  | nil => rfl
  | cons byte rest ih => rw [List.flatMap_cons, decodeBytes_encodeByte_append, ih]

/-! ## Texts -/

/-- A text that was written is read back. -/
theorem decodeText?_encodeText (text : String) : decodeText? (encodeText text) = some text := by
  have bytes : (decodeBytes (encodeText text)).toByteArray = text.toByteArray := by
    rw [encodeText, ← List.flatMap_assoc, decodeBytes_flatMap_encodeByte]
    have same := String.toByteArray_ofList (l := text.toList)
    rw [String.ofList_toList] at same
    exact same.symm
  rw [decodeText?, bytes, String.fromUTF8?, dif_pos text.isValidUTF8]
  rfl

/-- Names and values are written in plain characters, plus signs and percent signs. -/
theorem mem_encodeText {text : String} {c : Char} (member : c ∈ encodeText text) :
    isPlain c = true ∨ c = '+' ∨ c = '%' := by
  rw [encodeText, ← List.flatMap_assoc] at member
  obtain ⟨byte, _, member⟩ := List.mem_flatMap.mp member
  have below := byte.toNat_lt
  rcases encodeByte_cases byte with ⟨own, plain, _, written⟩ | ⟨_, written⟩ | written
  · rw [written, List.mem_singleton] at member
    exact Or.inl (member ▸ plain)
  · rw [written, List.mem_singleton] at member
    exact Or.inr (Or.inl member)
  · rw [written] at member
    rcases List.mem_cons.mp member with percent | digit
    · exact Or.inr (Or.inr percent)
    · rcases List.mem_cons.mp digit with rfl | last
      · exact Or.inl (isPlain_upperHexDigit (by omega))
      · exact Or.inl (List.mem_singleton.mp last ▸ isPlain_upperHexDigit (by omega))

/-- Neither separator is written for a name or a value. -/
theorem not_separator_of_mem_encodeText {text : String} {c : Char} (member : c ∈ encodeText text) :
    c ≠ '&' ∧ c ≠ '=' := by
  constructor <;> rintro rfl <;>
    exact absurd (mem_encodeText member) (by decide)

/-! ## Pairs -/

/-- A pair that was written is read back. -/
theorem decodePair?_encodePair (pair : String × String) :
    decodePair? (encodePair pair) = some pair := by
  have whole : ∀ c ∈ encodeText pair.1, (c != '=') = true := fun c member =>
    bne_iff_ne.mpr (not_separator_of_mem_encodeText member).2
  have name : (encodePair pair).takeWhile (· != '=') = encodeText pair.1 := by
    rw [encodePair, List.takeWhile_append_of_pos whole]
    simp
  have value : ((encodePair pair).dropWhile (· != '=')).drop 1 = encodeText pair.2 := by
    rw [encodePair, List.dropWhile_append_of_pos whole]
    simp
  simp [decodePair?, name, value, decodeText?_encodeText]

theorem not_ampersand_of_mem_encodePair {pair : String × String} {c : Char}
    (member : c ∈ encodePair pair) : (c == '&') = false := by
  rw [beq_eq_false_iff_ne]
  rcases List.mem_append.mp member with inName | rest
  · exact (not_separator_of_mem_encodeText inName).1
  · rcases List.mem_cons.mp rest with rfl | inValue
    · decide
    · exact (not_separator_of_mem_encodeText inValue).1

/-- Pairs that were written are read back, in their order. -/
theorem decodePairs?_encodePairs (pairs : List (String × String)) :
    decodePairs? (encodePairs pairs) = some pairs := by
  by_cases none : pairs = []
  · subst none
    rfl
  · have pieces : Text.splitAtEvery (· == '&') (List.intercalate ['&'] (pairs.map encodePair)) =
        pairs.map encodePair := by
      have nonempty : pairs.map encodePair ≠ [] := by simpa using none
      apply Text.splitAtEvery_intercalate rfl nonempty
      intro piece written c member
      obtain ⟨pair, _, rfl⟩ := List.mem_map.mp written
      exact not_ampersand_of_mem_encodePair member
    have kept : (pairs.map encodePair).filter (fun piece => !piece.isEmpty) =
        pairs.map encodePair := by
      apply List.filter_eq_self.mpr
      intro piece written
      obtain ⟨pair, _, rfl⟩ := List.mem_map.mp written
      simp [encodePair]
    rw [decodePairs?, encodePairs, String.toList_ofList, pieces, kept,
      mapM_map_of_undoes decodePair?_encodePair]

example : decodePairs? "a%26b=%C3%A9+%2B" = some [("a&b", "é +")] := by decide +kernel

end FormEncoding

end Questionnaire
