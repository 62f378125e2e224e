import Colloq.Authorization

/-!
# Node identities and hexadecimal text

A node keeps its secret key in hexadecimal, and a draft exchange its messages. Both
decoders read pairs of characters with a general integer parser, which also takes
a plus sign before a single digit.
-/

namespace Colloq

open Checked (ensure)

/-! ## The node's decoder -/

/-- The loop of `decode_32_bytes`, from the chunk of an index on. -/
def storeChunks : ℕ → List Char → Vector UInt8 32 → Except NodeError (Vector UInt8 32)
  | index, high :: low :: rest, bytes =>
    match fromStrRadix high low with
    | none => .error .secretKey
    | some byte => storeChunks (index + 1) rest (bytes.setIfInBounds index byte)
  | _, _, bytes => .ok bytes

def decode32Bytes (encoded : String) : Except NodeError (Vector UInt8 32) :=
  if encoded.utf8ByteSize ≠ 64 ∨ ¬ encoded.toList.all (·.toNat < 128) then
    .error .secretKey
  else
    storeChunks 0 encoded.toList (Vector.replicate 32 0)

/-- `NODE_IDENTITY_FORMAT` -/
def nodeIdentityFormat : String := "0.1.0"

structure NodeIdentity where
  colloqNode : String
  endpointIdentity : String
  secretKey : String
deriving DecidableEq

/-- The text of the identity that belongs to a secret key, `secret_key.public().to_string()`. -/
abbrev PublicText := Vector UInt8 32 → String

namespace NodeIdentity

def fromSecretKey (publicText : PublicText) (key : Vector UInt8 32) : NodeIdentity where
  colloqNode := nodeIdentityFormat
  endpointIdentity := publicText key
  secretKey := encodeHex key.toList

/-- `NodeIdentity::secret_key` -/
def readSecretKey (publicText : PublicText) (identity : NodeIdentity) :
    Except NodeError (Vector UInt8 32) := do
  requireVersion "Colloq node identity" identity.colloqNode nodeIdentityFormat
  let key ← decode32Bytes identity.secretKey
  ensure (publicText key = identity.endpointIdentity) (.identityMismatch identity.endpointIdentity)
  return key

end NodeIdentity

/-! ## Digits and pairs -/

/-- `0-9`, `a-f` and `A-F`. -/
def IsHexadecimal (character : Char) : Prop :=
  ('0' ≤ character ∧ character ≤ '9') ∨ ('a' ≤ character ∧ character ≤ 'f') ∨
    ('A' ≤ character ∧ character ≤ 'F')

instance : DecidablePred IsHexadecimal := fun _ =>
  inferInstanceAs (Decidable ((_ ∧ _) ∨ (_ ∧ _) ∨ (_ ∧ _)))

/-- Every two characters are two digits, or a plus sign and a digit. -/
def PairsOfDigits : List Char → Prop
  | [] => True
  | [_] => False
  | high :: low :: rest =>
    (high = '+' ∨ IsHexadecimal high) ∧ IsHexadecimal low ∧ PairsOfDigits rest

theorem exists_hexDigit_iff {character : Char} :
    (∃ digit, hexDigit character = some digit) ↔ IsHexadecimal character := by
  unfold hexDigit IsHexadecimal
  split_ifs with decimal lower upper
  · simp [decimal]
  · simp [lower]
  · simp [upper]
  · simp [decimal, lower, upper]

/-- A digit is written in lowercase. -/
theorem digitChar_of_hexDigit {character : Char} {digit : ℕ}
    (read : hexDigit character = some digit) :
    Nat.digitChar digit = character.toLower ∧ digit < 16 := by
  have named : character = Char.ofNat character.toNat := (Char.ofNat_toNat _).symm
  simp only [hexDigit, Char.le_def, UInt32.le_iff_toNat_le] at read
  split_ifs at read with decimal lower upper
  · have low : 48 ≤ character.toNat := decimal.1
    have high : character.toNat ≤ 57 := decimal.2
    rw [← Option.some.inj read, named]
    generalize character.toNat = code at low high
    interval_cases code <;> decide
  · have low : 97 ≤ character.toNat := lower.1
    have high : character.toNat ≤ 102 := lower.2
    rw [← Option.some.inj read, named]
    generalize character.toNat = code at low high
    interval_cases code <;> decide
  · have low : 65 ≤ character.toNat := upper.1
    have high : character.toNat ≤ 70 := upper.2
    rw [← Option.some.inj read, named]
    generalize character.toNat = code at low high
    interval_cases code <;> decide

theorem IsHexadecimal.ascii {character : Char} (digit : IsHexadecimal character) :
    character.toNat < 128 := by
  simp only [IsHexadecimal, Char.le_def, UInt32.le_iff_toNat_le] at digit
  rcases digit with ⟨_, high⟩ | ⟨_, high⟩ | ⟨_, high⟩
  · exact lt_of_le_of_lt high (by decide)
  · exact lt_of_le_of_lt high (by decide)
  · exact lt_of_le_of_lt high (by decide)

theorem IsHexadecimal.ne_plus {character : Char} (digit : IsHexadecimal character) :
    character ≠ '+' := by
  intro same
  subst same
  revert digit
  decide

/-- Without a sign, a pair spells the byte that is written like it. -/
theorem hexByte_of_fromStrRadix {high low : Char} {byte : UInt8}
    (read : fromStrRadix high low = some byte) (unsigned : high ≠ '+') :
    hexByte byte = [high.toLower, low.toLower] := by
  rw [fromStrRadix, if_neg unsigned] at read
  rcases highRead : hexDigit high with _ | upper
  · simp [highRead] at read
  · rcases lowRead : hexDigit low with _ | lower
    · simp [highRead, lowRead] at read
    · simp only [highRead, lowRead, Option.bind_eq_bind, Option.bind_some, pure,
        Option.some.injEq] at read
      rcases digitChar_of_hexDigit highRead with ⟨highChar, highBound⟩
      rcases digitChar_of_hexDigit lowRead with ⟨lowChar, lowBound⟩
      have value : byte.toNat = 16 * upper + lower := by
        rw [← read, UInt8.toNat_ofNat']
        omega
      rw [hexByte, value, ← highChar, ← lowChar]
      congr 2
      · omega
      · congr 1
        omega

theorem exists_fromStrRadix_iff {high low : Char} :
    (∃ byte, fromStrRadix high low = some byte) ↔
      (high = '+' ∨ IsHexadecimal high) ∧ IsHexadecimal low := by
  rw [← exists_hexDigit_iff, ← exists_hexDigit_iff, fromStrRadix]
  by_cases signed : high = '+'
  · rcases hexDigit low with _ | lower <;> simp [signed]
  · rcases hexDigit high with _ | upper <;> rcases hexDigit low with _ | lower <;> simp [signed]

/-! ## Texts -/

section Texts

variable {text : List Char} {bytes : List UInt8}

/-- Pairs are decoded if they are digits, where a plus sign passes for the first one. -/
theorem exists_decodeChunks_iff (even : text.length % 2 = 0) :
    (∃ bytes, decodeChunks text = .ok bytes) ↔ PairsOfDigits text := by
  induction text using decodeChunks.induct with
  | case1 high low rest unread =>
      have pair := @exists_fromStrRadix_iff high low
      simp only [unread, reduceCtorEq, exists_false, false_iff] at pair
      simp only [decodeChunks, unread, reduceCtorEq, exists_false, PairsOfDigits, false_iff]
      intro pairs
      exact pair ⟨pairs.1, pairs.2.1⟩
  | case2 high low rest byte read ih =>
      have pair := exists_fromStrRadix_iff.mp ⟨byte, read⟩
      have shorter : rest.length % 2 = 0 := by
        simp only [List.length_cons] at even
        omega
      rw [PairsOfDigits, ← ih shorter]
      simp only [decodeChunks, read]
      rcases decodeChunks rest with error | bytes <;> simp [pair]
  | case3 rest short =>
      rcases rest with _ | ⟨high, _ | ⟨low, rest⟩⟩
      · simp [decodeChunks, PairsOfDigits, pure, Except.pure]
      · simp at even
      · exact absurd rfl (short high low rest)

theorem decodeChunks_cons {high low : Char} {rest : List Char} :
    decodeChunks (high :: low :: rest) = .ok bytes ↔
      ∃ byte others, fromStrRadix high low = some byte ∧ decodeChunks rest = .ok others ∧
        bytes = byte :: others := by
  rw [decodeChunks]
  rcases fromStrRadix high low with _ | byte
  · simp
  · rcases decodeChunks rest with error | others <;> simp [eq_comm]

theorem length_decodeChunks (decoded : decodeChunks text = .ok bytes) :
    bytes.length = text.length / 2 := by
  induction text using decodeChunks.induct generalizing bytes with
  | case1 high low rest unread => simp [decodeChunks, unread] at decoded
  | case2 high low rest byte read ih =>
      rcases decodeChunks_cons.mp decoded with ⟨_, others, _, rest, same⟩
      rw [same, List.length_cons, ih rest, List.length_cons, List.length_cons]
      omega
  | case3 rest short =>
      rcases rest with _ | ⟨high, _ | ⟨low, rest⟩⟩
      · simp [← Except.ok.inj decoded]
      · simp [← Except.ok.inj decoded]
      · exact absurd rfl (short high low rest)

theorem flatMap_hexByte_of_decodeChunks (even : text.length % 2 = 0) (unsigned : '+' ∉ text)
    (decoded : decodeChunks text = .ok bytes) :
    bytes.flatMap hexByte = text.map Char.toLower := by
  induction text using decodeChunks.induct generalizing bytes with
  | case1 high low rest unread => simp [decodeChunks, unread] at decoded
  | case2 high low rest byte read ih =>
      rcases decodeChunks_cons.mp decoded with ⟨byte, others, read, rest, same⟩
      simp only [List.mem_cons, not_or] at unsigned
      simp only [List.length_cons] at even
      rw [same, List.flatMap_cons, hexByte_of_fromStrRadix read (Ne.symm unsigned.1),
        ih (by omega) unsigned.2.2 rest]
      rfl
  | case3 rest short =>
      rcases rest with _ | ⟨high, _ | ⟨low, rest⟩⟩
      · simp [← Except.ok.inj decoded]
      · simp at even
      · exact absurd rfl (short high low rest)

theorem plus_notMem_hexBytes (bytes : List UInt8) : '+' ∉ bytes.flatMap hexByte := by
  intro member
  rcases List.mem_flatMap.mp member with ⟨byte, _, digit⟩
  have bound := byte.toNat_lt
  simp only [hexByte, List.mem_cons, List.not_mem_nil, or_false] at digit
  rcases digit with same | same
  · exact digitChar_ne_plus (by omega) same.symm
  · exact digitChar_ne_plus (by omega) same.symm

theorem PairsOfDigits.even (pairs : PairsOfDigits text) : text.length % 2 = 0 := by
  induction text using PairsOfDigits.induct with
  | case1 => rfl
  | case2 => exact pairs.elim
  | case3 high low rest ih =>
      have shorter := ih pairs.2.2
      simp only [List.length_cons]
      omega

theorem PairsOfDigits.ascii (pairs : PairsOfDigits text) :
    ∀ character ∈ text, character.toNat < 128 := by
  induction text using PairsOfDigits.induct with
  | case1 => simp
  | case2 => exact pairs.elim
  | case3 high low rest ih =>
      rcases pairs with ⟨highDigit, lowDigit, pairs⟩
      intro character member
      rcases List.mem_cons.mp member with rfl | member
      · rcases highDigit with rfl | digit
        · decide
        · exact digit.ascii
      · rcases List.mem_cons.mp member with rfl | member
        · exact lowDigit.ascii
        · exact ih pairs character member

/-- Without a sign, pairs of digits are an even number of digits. -/
theorem pairsOfDigits_iff (unsigned : '+' ∉ text) :
    PairsOfDigits text ↔ text.length % 2 = 0 ∧ ∀ character ∈ text, IsHexadecimal character := by
  induction text using PairsOfDigits.induct with
  | case1 => simp [PairsOfDigits]
  | case2 => simp [PairsOfDigits]
  | case3 high low rest ih =>
      simp only [List.mem_cons, not_or] at unsigned
      have length : (high :: low :: rest).length % 2 = 0 ↔ rest.length % 2 = 0 := by
        simp only [List.length_cons]
        omega
      rw [PairsOfDigits, ih unsigned.2.2, length]
      simp only [List.forall_mem_cons, Ne.symm unsigned.1, false_or]
      tauto

theorem plus_notMem_of_hexadecimal (digits : ∀ character ∈ text, IsHexadecimal character) :
    '+' ∉ text := by
  intro member
  exact (digits _ member).ne_plus rfl

end Texts

/-! ## The two decoders -/

theorem utf8ByteSize_of_ascii {text : String}
    (ascii : ∀ character ∈ text.toList, character.toNat < 128) :
    text.utf8ByteSize = text.toList.length := by
  rw [← utf8ByteSize_ofList_of_ascii ascii, String.ofList_toList]

theorem decodeHex_eq_ok_iff {text : String} {bytes : List UInt8} :
    decodeHex text = .ok bytes ↔
      PairsOfDigits text.toList ∧ decodeChunks text.toList = .ok bytes := by
  rw [decodeHex]
  constructor
  · intro decoded
    split_ifs at decoded with unfit
    simp only [not_or, not_not, List.all_eq_true, decide_eq_true_eq] at unfit
    rw [utf8ByteSize_of_ascii unfit.2] at unfit
    exact ⟨(exists_decodeChunks_iff unfit.1).mp ⟨bytes, decoded⟩, decoded⟩
  · rintro ⟨pairs, decoded⟩
    rw [if_neg, decoded]
    simp only [not_or, not_not, List.all_eq_true, decide_eq_true_eq]
    rw [utf8ByteSize_of_ascii pairs.ascii]
    exact ⟨pairs.even, pairs.ascii⟩

theorem exists_decodeHex_iff {text : String} :
    (∃ bytes, decodeHex text = .ok bytes) ↔ PairsOfDigits text.toList := by
  simp only [decodeHex_eq_ok_iff, exists_and_left, and_iff_left_iff_imp]
  intro pairs
  exact (exists_decodeChunks_iff pairs.even).mpr pairs

/-- The chunks fill the key from their index on. -/
theorem storeChunks_eq_ok_iff {index : ℕ} {text : List Char} {bytes key : Vector UInt8 32}
    (even : text.length % 2 = 0) (fits : index + text.length / 2 = 32) :
    storeChunks index text bytes = .ok key ↔
      ∃ others, decodeChunks text = .ok others ∧
        key.toList = bytes.toList.take index ++ others := by
  induction text using decodeChunks.induct generalizing index bytes with
  | case1 high low rest unread => simp [storeChunks, decodeChunks, unread]
  | case2 high low rest byte read ih =>
      simp only [List.length_cons] at even fits
      have before : index < 32 := by omega
      have taken : (bytes.setIfInBounds index byte).toList.take (index + 1) =
          bytes.toList.take index ++ [byte] := by
        have inside : index < bytes.toList.length := by simpa using before
        rw [Vector.toList_setIfInBounds, List.take_succ_eq_append_getElem (by simpa using inside),
          List.take_set_of_le (le_refl index)]
        simp
      simp only [storeChunks, read]
      rw [ih (by omega) (by omega), taken]
      simp only [decodeChunks_cons, read, Option.some.injEq]
      constructor
      · rintro ⟨others, decoded, same⟩
        exact ⟨byte :: others, ⟨byte, others, rfl, decoded, rfl⟩, by simpa using same⟩
      · rintro ⟨_, ⟨_, others, rfl, decoded, rfl⟩, same⟩
        exact ⟨others, decoded, by simpa using same⟩
  | case3 rest short =>
      rcases rest with _ | ⟨high, _ | ⟨low, rest⟩⟩
      · simp only [List.length_nil] at fits
        have all : index = 32 := by omega
        subst index
        simp only [storeChunks, decodeChunks, pure, Except.pure, Except.ok.injEq, exists_eq_left',
          List.append_nil]
        rw [List.take_of_length_le (by simp), Vector.toList_inj, eq_comm]
      · simp at even
      · exact absurd rfl (short high low rest)

/-- The decoder of keys is that of messages, on texts of 64 characters. -/
theorem decode32Bytes_eq_ok_iff {text : String} {key : Vector UInt8 32} :
    decode32Bytes text = .ok key ↔
      text.toList.length = 64 ∧ decodeHex text = .ok key.toList := by
  have stored : text.toList.length = 64 → (storeChunks 0 text.toList (Vector.replicate 32 0) =
      .ok key ↔ decodeChunks text.toList = .ok key.toList) := by
    intro length
    rw [storeChunks_eq_ok_iff (by omega) (by omega)]
    simp
  rw [decode32Bytes, decodeHex_eq_ok_iff]
  constructor
  · intro decoded
    split_ifs at decoded with unfit
    simp only [not_or, not_not, List.all_eq_true, decide_eq_true_eq] at unfit
    rw [utf8ByteSize_of_ascii unfit.2] at unfit
    have chunks := (stored unfit.1).mp decoded
    have even : text.toList.length % 2 = 0 := by omega
    exact ⟨unfit.1, (exists_decodeChunks_iff even).mp ⟨_, chunks⟩, chunks⟩
  · rintro ⟨length, pairs, decoded⟩
    rw [if_neg, stored length]
    · exact decoded
    · simp only [not_or, not_not, List.all_eq_true, decide_eq_true_eq]
      rw [utf8ByteSize_of_ascii pairs.ascii]
      exact ⟨length, pairs.ascii⟩

theorem exists_decode32Bytes_iff {text : String} :
    (∃ key, decode32Bytes text = .ok key) ↔
      text.toList.length = 64 ∧ PairsOfDigits text.toList := by
  simp only [decode32Bytes_eq_ok_iff, exists_and_left, ← exists_decodeHex_iff]
  apply and_congr_right
  intro length
  constructor
  · rintro ⟨key, decoded⟩
    exact ⟨key.toList, decoded⟩
  · rintro ⟨bytes, decoded⟩
    have count := length_decodeChunks (decodeHex_eq_ok_iff.mp decoded).2
    exact ⟨⟨bytes.toArray, by simp [count, length]⟩, decoded⟩

theorem decode32Bytes_encodeHex (key : Vector UInt8 32) :
    decode32Bytes (encodeHex key.toList) = .ok key := by
  refine decode32Bytes_eq_ok_iff.mpr ⟨?_, decodeHex_encodeHex _⟩
  rw [encodeHex, String.toList_ofList, length_flatMap_hexByte, Vector.length_toList]

/-- A node reads back the key that it stores. -/
theorem NodeIdentity.readSecretKey_fromSecretKey (publicText : PublicText)
    (key : Vector UInt8 32) :
    (NodeIdentity.fromSecretKey publicText key).readSecretKey publicText = .ok key := by
  simp [NodeIdentity.readSecretKey, NodeIdentity.fromSecretKey, requireVersion,
    decode32Bytes_encodeHex, Checked.ensure, bind, Except.bind, pure, Except.pure]

/-- What is decoded is written like the text, in lowercase, unless the text holds a sign. -/
theorem encodeHex_eq_toLower_iff {text : String} {bytes : List UInt8}
    (decoded : decodeHex text = .ok bytes) :
    encodeHex bytes = text.toLower ↔ '+' ∉ text.toList := by
  rcases decodeHex_eq_ok_iff.mp decoded with ⟨pairs, chunks⟩
  rw [← String.toList_inj, encodeHex, String.toList_ofList, String.toLower, String.toList_map]
  constructor
  · intro same signed
    apply plus_notMem_hexBytes bytes
    rw [same]
    exact List.mem_map.mpr ⟨'+', signed, by decide⟩
  · intro unsigned
    exact flatMap_hexByte_of_decodeChunks pairs.even unsigned chunks

/-- No pair of the text is refused, and one begins with a plus sign. -/
def HidesSign (text : String) : Prop := PairsOfDigits text.toList ∧ '+' ∈ text.toList

/-- The text is decoded iff it is hexadecimal of an even length, and to bytes that are written
like it. -/
def DecodedExactly (text : String) : Prop :=
  ((∃ bytes, decodeHex text = .ok bytes) ↔
    text.length % 2 = 0 ∧ ∀ character ∈ text.toList, IsHexadecimal character) ∧
  ∀ bytes, decodeHex text = .ok bytes → encodeHex bytes = text.toLower

def KeyDecodedExactly (text : String) : Prop :=
  ((∃ key, decode32Bytes text = .ok key) ↔
    text.length = 64 ∧ ∀ character ∈ text.toList, IsHexadecimal character) ∧
  ∀ key, decode32Bytes text = .ok key → encodeHex key.toList = text.toLower

theorem decodedExactly_iff (text : String) : DecodedExactly text ↔ ¬HidesSign text := by
  rw [DecodedExactly, exists_decodeHex_iff, ← String.length_toList]
  constructor
  · rintro ⟨_, written⟩ ⟨pairs, signed⟩
    rcases exists_decodeHex_iff.mpr pairs with ⟨bytes, decoded⟩
    exact (encodeHex_eq_toLower_iff decoded).mp (written bytes decoded) signed
  · intro plain
    have unsigned : PairsOfDigits text.toList → '+' ∉ text.toList := by
      intro pairs signed
      exact plain ⟨pairs, signed⟩
    refine ⟨⟨?_, ?_⟩, ?_⟩
    · intro pairs
      exact (pairsOfDigits_iff (unsigned pairs)).mp pairs
    · intro digits
      exact (pairsOfDigits_iff (plus_notMem_of_hexadecimal digits.2)).mpr digits
    · intro bytes decoded
      apply (encodeHex_eq_toLower_iff decoded).mpr
      exact unsigned (decodeHex_eq_ok_iff.mp decoded).1

/-- Only a text of 64 characters that hides a sign is taken for a key that it does not spell. -/
theorem keyDecodedExactly_iff (text : String) :
    KeyDecodedExactly text ↔ ¬(text.length = 64 ∧ HidesSign text) := by
  rw [KeyDecodedExactly, exists_decode32Bytes_iff, ← String.length_toList]
  constructor
  · rintro ⟨_, written⟩ ⟨length, pairs, signed⟩
    rcases exists_decode32Bytes_iff.mpr ⟨length, pairs⟩ with ⟨key, decoded⟩
    exact (encodeHex_eq_toLower_iff (decode32Bytes_eq_ok_iff.mp decoded).2).mp
      (written key decoded) signed
  · intro plain
    have unsigned : text.toList.length = 64 → PairsOfDigits text.toList → '+' ∉ text.toList := by
      intro length pairs signed
      exact plain ⟨length, pairs, signed⟩
    refine ⟨⟨?_, ?_⟩, ?_⟩
    · rintro ⟨length, pairs⟩
      exact ⟨length, ((pairsOfDigits_iff (unsigned length pairs)).mp pairs).2⟩
    · rintro ⟨length, digits⟩
      refine ⟨length, (pairsOfDigits_iff (plus_notMem_of_hexadecimal digits)).mpr ⟨?_, digits⟩⟩
      rw [length]
    · intro key decoded
      rcases decode32Bytes_eq_ok_iff.mp decoded with ⟨length, decoded⟩
      apply (encodeHex_eq_toLower_iff decoded).mpr
      exact unsigned length (decodeHex_eq_ok_iff.mp decoded).1

/-- Both decoders invert the encoder, and take exactly the hexadecimal texts, except those in
which a plus sign stands for a digit. -/
theorem hex_decoded_exactly_iff (bytes : List UInt8) (key : Vector UInt8 32) (text : String) :
    decodeHex (encodeHex bytes) = .ok bytes ∧
    decode32Bytes (encodeHex key.toList) = .ok key ∧
    (DecodedExactly text ↔ ¬HidesSign text) ∧
    (KeyDecodedExactly text ↔ ¬(text.length = 64 ∧ HidesSign text)) :=
  ⟨decodeHex_encodeHex bytes, decode32Bytes_encodeHex key, decodedExactly_iff text,
    keyDecodedExactly_iff text⟩

/-- `+5` is taken for the byte `05`. -/
theorem hex_takes_sign :
    ¬ ((∀ bytes, decodeHex (encodeHex bytes) = .ok bytes) ∧
      (∀ key : Vector UInt8 32, decode32Bytes (encodeHex key.toList) = .ok key) ∧
      (∀ text, DecodedExactly text) ∧ ∀ text, KeyDecodedExactly text) := by
  rintro ⟨_, _, exactly, _⟩
  have decoded : decodeHex "+5" = .ok [5] := rfl
  have written := (exactly "+5").2 [5] decoded
  exact (encodeHex_eq_toLower_iff decoded).mp written (by decide)

end Colloq
