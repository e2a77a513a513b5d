import Mathlib.Data.List.Induction
import NodeBridge.Address

/-
This file says which texts spell a word or an address.
A word has four bases and may have gaps, an address has forty digits, and the text that is written
for either of them is one of its spellings.
-/

namespace NodeBridge

/-- These characters are the digits of a number in a base, in either case and from its first one. -/
inductive Numeral (base : Nat) : List Char → Nat → Prop
  | nil : Numeral base [] 0
  | snoc {characters : List Char} {number : Nat} {character : Char} {value : Nat}
      (numeral : Numeral base characters number) (digit : Hex.value? character = some value)
      (small : value < base) : Numeral base (characters ++ [character]) (base * number + value)

variable {base number : Nat} {characters : List Char} {character : Char} {value : Nat}

theorem Hex.valueDigitChar (small : value < 16) :
    value? (Nat.digitChar value) = some value := by
  have cases : ∀ index : Fin 16, value? (Nat.digitChar index.val) = some index.val := by decide
  exact cases ⟨value, small⟩

/-- A digit is a decimal digit or one of six letters in either case. -/
theorem Hex.valueRange (digit : value? character = some value) :
    48 ≤ character.toNat ∧ character.toNat ≤ 57 ∨
    10 ≤ value ∧ (65 ≤ character.toNat ∧ character.toNat ≤ 70 ∨
      97 ≤ character.toNat ∧ character.toNat ≤ 102) := by
  simp only [value?] at digit
  split at digit
  · omega
  · split at digit
    · obtain rfl := Option.some.inj digit
      omega
    · split at digit
      · obtain rfl := Option.some.inj digit
        omega
      · contradiction

namespace Numeral

theorem ofNat (number : Nat) : Numeral 16 (Nat.toDigits 16 number) number := by
  induction number using Nat.strongRecOn with
  | _ number inductionHypothesis =>
      rw [Nat.toDigits_eq_if (by decide)]
      split
      case isTrue small =>
        have single := Numeral.nil.snoc (Hex.valueDigitChar small) small
        rwa [Nat.mul_zero, Nat.zero_add] at single
      case isFalse large =>
        have shorter := inductionHypothesis (number / 16) (by omega)
        have low : number % 16 < 16 := Nat.mod_lt _ (by decide)
        have longer := shorter.snoc (Hex.valueDigitChar low) low
        rwa [Nat.div_add_mod] at longer

theorem encode (bytes : List UInt8) : Numeral 16 (Hex.encode bytes) (BigEndian.decode bytes) := by
  induction bytes using List.reverseRecOn with
  | nil => exact .nil
  | append_singleton bytes byte inductionHypothesis =>
      have bound := byte.toNat_lt
      have high := inductionHypothesis.snoc (Hex.valueDigit (show byte.toNat / 16 < 16 by omega))
        (by omega)
      have both := high.snoc (Hex.valueDigit (show byte.toNat % 16 < 16 by omega)) (by omega)
      have value : BigEndian.decode (bytes ++ [byte]) =
          16 * (16 * BigEndian.decode bytes + byte.toNat / 16) + byte.toNat % 16 := by
        simp only [BigEndian.decode, List.foldl_append, List.foldl_cons, List.foldl_nil]
        omega
      have characters : Hex.encode (bytes ++ [byte]) =
          Hex.encode bytes ++ [Hex.digit (byte.toNat / 16)] ++ [Hex.digit (byte.toNat % 16)] := by
        simp [Hex.encode, Hex.ofByte]
      rw [value, characters]
      exact both

/-- All digits are characters of one byte and mark nothing. -/
theorem digit (numeral : Numeral base characters number) (member : character ∈ characters) :
    ∃ value, Hex.value? character = some value ∧ value < base := by
  induction numeral with
  | nil => contradiction
  | snoc _ digit small inductionHypothesis =>
      rcases List.mem_append.mp member with earlier | last
      · exact inductionHypothesis earlier
      · rw [List.mem_singleton.mp last]
        exact ⟨_, digit, small⟩

end Numeral

namespace Word

/-- Every base but ten has a marker in either case. -/
def markers : List (Nat × List Char) :=
  [(16, ['0', 'x']), (16, ['0', 'X']), (8, ['0', 'o']), (8, ['0', 'O']), (2, ['0', 'b']),
   (2, ['0', 'B']), (10, [])]

/-- A text spells a word in one of the bases, and underscores may stand anywhere. -/
def Spelled (word : Word) (source : String) : Prop :=
  ∃ base marker characters, (base, marker) ∈ markers ∧
    source = String.ofList (marker ++ characters) ∧
    Numeral base (characters.filter (· ≠ '_')) word.toNat

theorem digitsSkip (base : Nat) (characters : List Char) (number : Nat) :
    digits? base (characters.filter (· ≠ '_')) number = digits? base characters number := by
  induction characters generalizing number with
  | nil => rfl
  | cons character rest inductionHypothesis =>
      by_cases gap : character = '_'
      · rw [List.filter_cons_of_neg (by simp [gap]), inductionHypothesis, gap, digits?]
      · rw [List.filter_cons_of_pos (by simp [gap]), digits?.eq_3 _ _ _ _ gap,
          digits?.eq_3 _ _ _ _ gap]
        simp only [inductionHypothesis]

theorem digitsNumeral (numeral : Numeral base characters number) (rest : List Char) :
    digits? base (characters ++ rest) 0 = digits? base rest number := by
  induction numeral generalizing rest with
  | nil => rfl
  | @snoc characters number character value numeral digit small inductionHypothesis =>
      have plain : character ≠ '_' := by
        rintro rfl
        contradiction
      rw [List.append_assoc, inductionHypothesis, List.singleton_append, digits?.eq_3 _ _ _ _ plain,
        digit]
      exact if_pos small

/-- A text without a marker is decimal. -/
theorem splitBasePlain (plain : ∀ character ∈ characters, character.toNat = 95 ∨
    character.toNat ≤ 57) : splitBase characters = (10, characters) := by
  rw [splitBase.eq_def]
  split
  case h_7 => rfl
  all_goals exact absurd (plain _ (List.mem_cons_of_mem _ List.mem_cons_self)) (by decide)

/-- Every spelling of a word is read as this word. -/
theorem ofTextSpelled {word : Word} {source : String} (spelled : word.Spelled source) :
    ofText? source = some word := by
  obtain ⟨base, marker, characters, marked, rfl, numeral⟩ := spelled
  have split : splitBase (marker ++ characters) = (base, characters) := by
    simp only [markers, List.mem_cons, Prod.mk.injEq, List.not_mem_nil, or_false] at marked
    rcases marked with ⟨rfl, rfl⟩ | ⟨rfl, rfl⟩ | ⟨rfl, rfl⟩ | ⟨rfl, rfl⟩ | ⟨rfl, rfl⟩ | ⟨rfl, rfl⟩ |
      ⟨rfl, rfl⟩
    case inr.inr.inr.inr.inr.inr =>
      refine splitBasePlain fun character member => ?_
      by_cases gap : character = '_'
      · exact .inl (by rw [gap]; rfl)
      · obtain ⟨value, digit, small⟩ :=
          numeral.digit (List.mem_filter.mpr ⟨member, by simpa using gap⟩)
        have range := Hex.valueRange digit
        exact .inr (by omega)
    all_goals rfl
  have digits := digitsNumeral numeral []
  rw [List.append_nil, digitsSkip] at digits
  simp only [ofText?, String.toList_ofList, split, digits, digits?, Option.bind_eq_bind,
    Option.bind_some, ofNat?]
  rw [if_pos word.isLt, BitVec.ofNat_toNat, BitVec.setWidth_eq]

/-- The text that is written for a word is one of its spellings. -/
theorem hexSpelled (word : Word) : word.Spelled word.hex := by
  refine ⟨16, ['0', 'x'], Nat.toDigits 16 word.toNat, List.mem_cons_self, ?_, ?_⟩
  · rw [hex, Hex.ofNat, String.ofList_append]
  · have numeral := Numeral.ofNat word.toNat
    rwa [List.filter_eq_self.mpr]
    intro character member
    obtain ⟨value, digit, _⟩ := numeral.digit member
    have plain : character ≠ '_' := by
      rintro rfl
      contradiction
    simpa using plain

end Word

namespace Text

/-- The bytes of an array are read from its first one to its last. -/
theorem bytesToList (source : ByteArray) : source.toList = source.data.toList := by
  have walk (index : Nat) (seen : List UInt8) : ByteArray.toList.loop source index seen =
      seen.reverse ++ source.data.toList.drop index := by
    -- The induction is on the bytes that are still ahead.
    induction ahead : source.size - index generalizing index seen with
    | zero =>
        rw [ByteArray.toList.loop.eq_1, if_neg (by omega), List.drop_eq_nil_of_le, List.append_nil]
        have size : source.data.toList.length = source.size := rfl
        omega
    | succ ahead inductionHypothesis =>
        have inside : index < source.data.toList.length := by
          have size : source.data.toList.length = source.size := rfl
          omega
        have byte : source.get! index = source.data.toList[index] := by
          rw [Array.getElem_toList]
          exact getElem!_pos source.data index inside
        rw [ByteArray.toList.loop.eq_1, if_pos (by omega),
          inductionHypothesis _ _ (by omega), List.drop_eq_getElem_cons inside, byte]
        simp
  exact walk 0 []

/-- A character below 128 is a byte of its own. -/
theorem bytesOfAscii (ascii : ∀ character ∈ characters, character.toNat < 128) :
    (String.ofList characters).toUTF8.toList =
      characters.map fun character => UInt8.ofNat character.toNat := by
  rw [bytesToList, String.toUTF8_eq_toByteArray, String.toByteArray_ofList, List.utf8Encode,
    List.toList_data_toByteArray]
  induction characters with
  | nil => rfl
  | cons character rest inductionHypothesis =>
      have own : String.utf8EncodeChar character = [UInt8.ofNat character.toNat] := by
        have small := ascii character List.mem_cons_self
        exact if_pos (Nat.le_of_lt_succ small)
      rw [List.flatMap_cons, List.map_cons, own,
        inductionHypothesis fun other member => ascii other (List.mem_cons_of_mem _ member)]
      rfl

end Text

namespace Address

/-- A text spells an address with forty digits, and there may be a marker in either case. -/
def Spelled (address : Address) (source : String) : Prop :=
  ∃ marker digits, marker ∈ [[], ['0', 'x'], ['0', 'X']] ∧ digits.length = 40 ∧
    source = String.ofList (marker ++ digits) ∧ Numeral 16 digits address.number.toNat

theorem readDigitsNumeral (numeral : Numeral 16 characters number) (rest : List UInt8) :
    readDigits 0 0 (characters.map (fun character => UInt8.ofNat character.toNat) ++ rest) =
      readDigits characters.length number rest := by
  induction numeral generalizing rest with
  | nil => rfl
  | @snoc characters number character value numeral digit small inductionHypothesis =>
      have range := Hex.valueRange digit
      have byte : (UInt8.ofNat character.toNat).toNat = character.toNat := by
        rw [UInt8.toNat_ofNat']
        omega
      have own : digitValue? (UInt8.ofNat character.toNat) = some value := by
        have ascii : UInt8.ofNat character.toNat < 128 := by
          rw [UInt8.lt_iff_toNat_lt, byte]
          show character.toNat < 128
          omega
        rw [digitValue?, if_pos ascii, byte, Char.ofNat_toNat]
        exact digit
      rw [List.map_append, List.append_assoc, inductionHypothesis, List.map_singleton,
        List.singleton_append, readDigits, own, List.length_append]
      rfl

/-- A text without a marker keeps all its bytes. -/
theorem dropMarkerPlain {bytes : List UInt8} (plain : ∀ byte ∈ bytes, byte ≠ 120 ∧ byte ≠ 88) :
    dropMarker bytes = bytes := by
  rw [dropMarker.eq_def]
  split
  case h_3 => rfl
  all_goals
    have mark := plain _ (List.mem_cons_of_mem _ List.mem_cons_self)
    simp at mark

/-- Every spelling of an address is read as this address. -/
theorem parseSpelled {address : Address} {source : String} (spelled : address.Spelled source) :
    parse source = .ok address := by
  obtain ⟨marker, digits, marked, forty, rfl, numeral⟩ := spelled
  have ascii (character : Char) (member : character ∈ marker ++ digits) :
      character.toNat < 128 := by
    rcases List.mem_append.mp member with marks | isDigit
    · simp only [List.mem_cons, List.not_mem_nil, or_false] at marked
      rcases marked with rfl | rfl | rfl
      · contradiction
      all_goals
        simp only [List.mem_cons, List.not_mem_nil, or_false] at marks
        rcases marks with rfl | rfl <;> decide
    · obtain ⟨value, digit, _⟩ := numeral.digit isDigit
      have range := Hex.valueRange digit
      omega
  have unmarked : dropMarker ((marker ++ digits).map fun character =>
      UInt8.ofNat character.toNat) = digits.map fun character => UInt8.ofNat character.toNat := by
    simp only [List.mem_cons, List.not_mem_nil, or_false] at marked
    rcases marked with rfl | rfl | rfl
    · refine dropMarkerPlain fun byte member => ?_
      obtain ⟨character, isDigit, rfl⟩ := List.mem_map.mp member
      obtain ⟨value, digit, _⟩ := numeral.digit isDigit
      have range := Hex.valueRange digit
      rw [ne_eq, ne_eq, ← UInt8.toNat_inj, ← UInt8.toNat_inj, UInt8.toNat_ofNat']
      show ¬character.toNat % 256 = 120 ∧ ¬character.toNat % 256 = 88
      omega
    · rfl
    · rfl
  have read := readDigitsNumeral numeral []
  rw [List.append_nil, readDigits] at read
  simp only [parse, Text.bytesOfAscii ascii, unmarked, List.length_map, forty, read]
  rw [if_neg (by decide), if_neg (by decide), Except.map, BitVec.ofNat_toNat, BitVec.setWidth_eq]

theorem decodeBytes (address : Address) :
    BigEndian.decode address.bytes = address.number.toNat := by
  have bound := address.number.isLt
  simp only [bytes, BigEndian.decodeEncode, Nat.pow_eq]
  omega

theorem ofBytesBytes (address : Address) : ofBytes address.bytes = address := by
  rw [ofBytes, decodeBytes, BitVec.ofNat_toNat, BitVec.setWidth_eq]

/-- The text that is written for an address is one of its spellings. -/
theorem hexSpelled (address : Address) : address.Spelled address.hex := by
  refine ⟨['0', 'x'], address.digits, by simp, ?_, ?_, ?_⟩
  · rw [digits, Hex.lengthEncode, lengthBytes]
  · rw [hex, List.cons_append, List.cons_append, List.nil_append]
  · have numeral := Numeral.encode address.bytes
    rwa [decodeBytes] at numeral

end Address

end NodeBridge
