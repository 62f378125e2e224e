import Colloq.Crates
import Colloq.Library.Sha256

/-!
# The compact JSON text

A text layer for the parameters of the model. The writer is the compact formatter
of `serde_json`, and the reader takes back every text that it writes, one token at
a time. Only the digits of a float differ: it is written by its bit pattern.
-/

namespace Colloq.JsonText

/-! ## Writing -/

def escape (character : Char) : List Char :=
  if character = '"' then ['\\', '"']
  else if character = '\\' then ['\\', '\\']
  else if character = '\x08' then ['\\', 'b']
  else if character = '\x0c' then ['\\', 'f']
  else if character = '\n' then ['\\', 'n']
  else if character = '\r' then ['\\', 'r']
  else if character = '\t' then ['\\', 't']
  else if character.toNat < 0x20 then
    ['\\', 'u', '0', '0', Nat.digitChar (character.toNat / 16),
      Nat.digitChar (character.toNat % 16)]
  else [character]

def writeString (value : String) : List Char :=
  '"' :: value.toList.flatMap escape ++ ['"']

def writeNumber : Number → List Char
  | .posInt value => Nat.toDigits 10 value.toNat
  | .negInt value _ => '-' :: Nat.toDigits 10 value.toInt.natAbs
  | .float value => Nat.toDigits 10 value.bits.toNat ++ ['f']

mutual

def write : Json → List Char
  | .null => ['n', 'u', 'l', 'l']
  | .bool true => ['t', 'r', 'u', 'e']
  | .bool false => ['f', 'a', 'l', 's', 'e']
  | .number value => writeNumber value
  | .string value => writeString value
  | .array [] => ['[', ']']
  | .array (item :: items) => '[' :: write item ++ writeItems items
  | .object [] => ['{', '}']
  | .object ((key, value) :: members) =>
      '{' :: writeString key ++ ':' :: write value ++ writeMembers members

/-- The items after the first, and the end of the array. -/
def writeItems : List Json → List Char
  | [] => [']']
  | item :: items => ',' :: write item ++ writeItems items

def writeMembers : List (String × Json) → List Char
  | [] => ['}']
  | (key, value) :: members =>
      ',' :: writeString key ++ ':' :: write value ++ writeMembers members

end

/-! ## Reading -/

def hexValue (digit : Char) : ℕ :=
  if digit.isDigit then digit.toNat - '0'.toNat else digit.toNat - 'a'.toNat + 10

/-- The character of an escape sequence after its backslash. -/
def unescape : List Char → Option (Char × List Char)
  | '"' :: rest => some ('"', rest)
  | '\\' :: rest => some ('\\', rest)
  | 'b' :: rest => some ('\x08', rest)
  | 'f' :: rest => some ('\x0c', rest)
  | 'n' :: rest => some ('\n', rest)
  | 'r' :: rest => some ('\r', rest)
  | 't' :: rest => some ('\t', rest)
  | 'u' :: '0' :: '0' :: high :: low :: rest =>
      some (Char.ofNat (16 * hexValue high + hexValue low), rest)
  | _ => none

/-- The characters up to the closing quote. -/
def readChars : ℕ → List Char → Option (List Char × List Char)
  | 0, _ | _, [] => none
  | fuel + 1, first :: rest =>
    if first = '"' then some ([], rest)
    else do
      let (character, rest) ← if first = '\\' then unescape rest else some (first, rest)
      let (characters, rest) ← readChars fuel rest
      some (character :: characters, rest)

/-- A string, with its opening quote. -/
def readString (fuel : ℕ) : List Char → Option (String × List Char)
  | '"' :: rest => (readChars fuel rest).map fun (characters, rest) => (.ofList characters, rest)
  | _ => none

def isNumberChar (character : Char) : Bool :=
  character.isDigit || character = '-' || character = 'f'

/-- A token without a sign. -/
def unsignedOfToken (token : List Char) : Option Number :=
  if token.getLast? = some 'f' then
    let bits := UInt64.ofNat (Nat.ofDigitChars 10 token.dropLast 0)
    if finite : (bits >>> 52) &&& 0x7ff ≠ 0x7ff then some (.float ⟨bits, finite⟩) else none
  else some (.posInt (UInt64.ofNat (Nat.ofDigitChars 10 token 0)))

def numberOfToken : List Char → Option Number
  | '-' :: digits =>
    let value := Int64.ofInt (-(Nat.ofDigitChars 10 digits 0))
    if negative : value < 0 then some (.negInt value negative) else none
  | token => unsignedOfToken token

def readNumber (text : List Char) : Option (Json × List Char) :=
  (numberOfToken (text.takeWhile isNumberChar)).map fun value =>
    (.number value, text.dropWhile isNumberChar)

mutual

def read : ℕ → List Char → Option (Json × List Char)
  | 0, _ => none
  | _ + 1, 'n' :: 'u' :: 'l' :: 'l' :: rest => some (.null, rest)
  | _ + 1, 't' :: 'r' :: 'u' :: 'e' :: rest => some (.bool true, rest)
  | _ + 1, 'f' :: 'a' :: 'l' :: 's' :: 'e' :: rest => some (.bool false, rest)
  | _ + 1, '[' :: ']' :: rest => some (.array [], rest)
  | fuel + 1, '[' :: rest => do
    let (item, rest) ← read fuel rest
    let (items, rest) ← readItems fuel rest
    some (.array (item :: items), rest)
  | _ + 1, '{' :: '}' :: rest => some (.object [], rest)
  | fuel + 1, '{' :: rest => do
    let (member, rest) ← readMember fuel rest
    let (members, rest) ← readMembers fuel rest
    some (.object (member :: members), rest)
  | fuel + 1, '"' :: rest =>
    (readString fuel ('"' :: rest)).map fun (value, rest) => (.string value, rest)
  | _ + 1, rest => readNumber rest

def readMember : ℕ → List Char → Option ((String × Json) × List Char)
  | 0, _ => none
  | fuel + 1, text => do
    match ← readString fuel text with
    | (key, ':' :: rest) =>
      let (value, rest) ← read fuel rest
      some ((key, value), rest)
    | _ => none

def readItems : ℕ → List Char → Option (List Json × List Char)
  | _ + 1, ']' :: rest => some ([], rest)
  | fuel + 1, ',' :: rest => do
    let (item, rest) ← read fuel rest
    let (items, rest) ← readItems fuel rest
    some (item :: items, rest)
  | _, _ => none

def readMembers : ℕ → List Char → Option (List (String × Json) × List Char)
  | _ + 1, '}' :: rest => some ([], rest)
  | fuel + 1, ',' :: rest => do
    let (member, rest) ← readMember fuel rest
    let (members, rest) ← readMembers fuel rest
    some (member :: members, rest)
  | _, _ => none

end

/-! ## The reader takes back what is written -/

theorem hexValue_digitChar {digit : ℕ} (bound : digit < 16) :
    hexValue (Nat.digitChar digit) = digit := by
  interval_cases digit <;> decide

/-- A character stands for itself, or its escape sequence is read back as it. -/
theorem escape_cases (character : Char) :
    (escape character = [character] ∧ character ≠ '"' ∧ character ≠ '\\') ∨
      ∃ body, escape character = '\\' :: body ∧
        ∀ rest, unescape (body ++ rest) = some (character, rest) := by
  unfold escape
  split_ifs with quote backslash b f n r t control
  · exact Or.inr ⟨['"'], rfl, fun rest => by rw [quote]; rfl⟩
  · exact Or.inr ⟨['\\'], rfl, fun rest => by rw [backslash]; rfl⟩
  · exact Or.inr ⟨['b'], rfl, fun rest => by rw [b]; rfl⟩
  · exact Or.inr ⟨['f'], rfl, fun rest => by rw [f]; rfl⟩
  · exact Or.inr ⟨['n'], rfl, fun rest => by rw [n]; rfl⟩
  · exact Or.inr ⟨['r'], rfl, fun rest => by rw [r]; rfl⟩
  · exact Or.inr ⟨['t'], rfl, fun rest => by rw [t]; rfl⟩
  · refine Or.inr ⟨_, rfl, fun rest => ?_⟩
    have value : 16 * hexValue (Nat.digitChar (character.toNat / 16)) +
        hexValue (Nat.digitChar (character.toNat % 16)) = character.toNat := by
      rw [hexValue_digitChar (by omega), hexValue_digitChar (by omega), Nat.div_add_mod]
    simp only [List.cons_append, List.nil_append, unescape, value, Char.ofNat_toNat]
  · exact Or.inl ⟨rfl, quote, backslash⟩

theorem readChars_escape {characters rest : List Char} {fuel : ℕ}
    (enough : (characters.flatMap escape).length < fuel) :
    readChars fuel (characters.flatMap escape ++ '"' :: rest) = some (characters, rest) := by
  induction characters generalizing fuel with
  | nil =>
      rcases Nat.exists_eq_add_of_lt enough with ⟨fuel, rfl⟩
      simp [readChars]
  | cons character characters ih =>
      rw [List.flatMap_cons, List.length_append] at enough
      obtain ⟨fuel, rfl⟩ : ∃ less, fuel = less + 1 := Nat.exists_eq_succ_of_ne_zero (by omega)
      rcases escape_cases character with ⟨plain, quote, backslash⟩ | ⟨body, escaped, read⟩
      · have later := @ih fuel (by rw [plain, List.length_singleton] at enough; omega)
        simp [readChars, plain, quote, backslash, later]
      · have later := @ih fuel (by rw [escaped, List.length_cons] at enough; omega)
        simp [readChars, escaped, read, later]

theorem writeString_append (value : String) (rest : List Char) :
    writeString value ++ rest = '"' :: (value.toList.flatMap escape ++ '"' :: rest) := by
  simp [writeString]

theorem readString_writeString {value : String} {rest : List Char} {fuel : ℕ}
    (enough : (writeString value).length ≤ fuel + 1) :
    readString fuel (writeString value ++ rest) = some (value, rest) := by
  have fits : (value.toList.flatMap escape).length < fuel := by
    simp only [writeString, List.length_append, List.length_cons, List.length_nil] at enough
    omega
  simp [readString, writeString, readChars_escape fits]

theorem isNumberChar_toDigits {number : ℕ} {digit : Char}
    (member : digit ∈ Nat.toDigits 10 number) :
    isNumberChar digit = true := by
  simp [isNumberChar, Nat.isDigit_of_mem_toDigits (by decide) (by decide) member]

theorem isNumberChar_writeNumber {value : Number} {character : Char}
    (member : character ∈ writeNumber value) : isNumberChar character = true := by
  cases value with
  | posInt value => exact isNumberChar_toDigits member
  | negInt value negative =>
      rcases List.mem_cons.mp member with rfl | digit
      · decide
      · exact isNumberChar_toDigits digit
  | float value =>
      rcases List.mem_append.mp member with digit | mark
      · exact isNumberChar_toDigits digit
      · rcases List.mem_singleton.mp mark with rfl
        decide

theorem exists_cons_toDigits (number : ℕ) :
    ∃ first digits, Nat.toDigits 10 number = first :: digits ∧ first.isDigit = true := by
  rcases List.exists_cons_of_ne_nil (@Nat.toDigits_ne_nil number 10) with ⟨first, digits, cons⟩
  have member : first ∈ Nat.toDigits 10 number := by simp [cons]
  exact ⟨first, digits, cons, Nat.isDigit_of_mem_toDigits (by decide) (by decide) member⟩

theorem numberOfToken_of_isDigit {first : Char} {token : List Char}
    (digit : first.isDigit = true) :
    numberOfToken (first :: token) = unsignedOfToken (first :: token) := by
  have positive : first ≠ '-' := by
    rintro rfl
    simp at digit
  unfold numberOfToken
  split
  · rename_i cons
    exact absurd (List.cons.inj cons).1 positive
  · rfl

/-- A number is read back from its token, with its sign and kind. -/
theorem numberOfToken_writeNumber (value : Number) :
    numberOfToken (writeNumber value) = some value := by
  cases value with
  | posInt value =>
      rcases exists_cons_toDigits value.toNat with ⟨first, digits, cons, digit⟩
      have noMark : (first :: digits).getLast? ≠ some 'f' := by
        intro mark
        have member : 'f' ∈ Nat.toDigits 10 value.toNat := cons ▸ List.mem_of_getLast? mark
        simpa using Nat.isDigit_of_mem_toDigits (by decide) (by decide) member
      rw [writeNumber, cons, numberOfToken_of_isDigit digit, unsignedOfToken, if_neg noMark, ← cons,
        Nat.ofDigitChars_ten_toDigits, UInt64.ofNat_toNat]
  | negInt value negative =>
      have magnitude : -(value.toInt.natAbs : ℤ) = value.toInt := by
        have below := Int64.lt_iff_toInt_lt.mp negative
        rw [Int64.toInt_zero] at below
        omega
      simp only [writeNumber, numberOfToken, Nat.ofDigitChars_ten_toDigits, magnitude,
        Int64.ofInt_toInt, negative, dite_true]
  | float value =>
      rcases exists_cons_toDigits value.bits.toNat with ⟨first, digits, cons, digit⟩
      rw [writeNumber, cons, List.cons_append, numberOfToken_of_isDigit digit, ← List.cons_append,
        ← cons, unsignedOfToken, if_pos List.getLast?_concat, List.dropLast_concat]
      simp only [Nat.ofDigitChars_ten_toDigits, UInt64.ofNat_toNat]
      exact dif_pos value.finite

/-- The text does not go on with a character of a number. -/
def Ends (text : List Char) : Prop :=
  ∀ character ∈ text.head?, isNumberChar character = false

theorem readNumber_writeNumber {value : Number} {rest : List Char} (ends : Ends rest) :
    readNumber (writeNumber value ++ rest) = some (.number value, rest) := by
  have own : ∀ character ∈ writeNumber value, isNumberChar character = true :=
    fun _ => isNumberChar_writeNumber
  have stops : rest.takeWhile isNumberChar = [] ∧ rest.dropWhile isNumberChar = rest := by
    cases rest with
    | nil => exact ⟨rfl, rfl⟩
    | cons character rest =>
        have stop := ends character (by simp)
        exact ⟨List.takeWhile_cons_of_neg (by simp [stop]),
          List.dropWhile_cons_of_neg (by simp [stop])⟩
  rw [readNumber, List.takeWhile_append_of_pos own, List.dropWhile_append_of_pos own, stops.1,
    stops.2, List.append_nil, numberOfToken_writeNumber]
  rfl

theorem exists_cons_writeNumber (value : Number) :
    ∃ first tail, writeNumber value = first :: tail ∧ (first = '-' ∨ first.isDigit = true) := by
  cases value with
  | posInt value =>
      rcases exists_cons_toDigits value.toNat with ⟨first, digits, cons, digit⟩
      exact ⟨first, digits, cons, Or.inr digit⟩
  | negInt value negative => exact ⟨_, _, rfl, Or.inl rfl⟩
  | float value =>
      rcases exists_cons_toDigits value.bits.toNat with ⟨first, digits, cons, digit⟩
      exact ⟨first, digits ++ ['f'], by rw [writeNumber, cons, List.cons_append], Or.inr digit⟩

theorem read_writeNumber {value : Number} {rest : List Char} {fuel : ℕ} (ends : Ends rest) :
    read (fuel + 1) (writeNumber value ++ rest) = some (.number value, rest) := by
  rw [← readNumber_writeNumber ends]
  rcases exists_cons_writeNumber value with ⟨first, tail, cons, start⟩
  have other : first ≠ 'n' ∧ first ≠ 't' ∧ first ≠ 'f' ∧ first ≠ '[' ∧ first ≠ '{' ∧
      first ≠ '"' := by
    refine ⟨?_, ?_, ?_, ?_, ?_, ?_⟩ <;> rintro rfl <;> simp at start
  rw [cons, List.cons_append]
  simp [read, other]

theorem exists_cons_write (json : Json) :
    ∃ first tail, write json = first :: tail ∧ first ≠ ']' := by
  cases json with
  | bool value => cases value <;> exact ⟨_, _, rfl, by decide⟩
  | number value =>
      rcases exists_cons_writeNumber value with ⟨first, tail, cons, start⟩
      refine ⟨first, tail, cons, ?_⟩
      rintro rfl
      simp at start
  | array items => cases items <;> exact ⟨_, _, rfl, by decide⟩
  | object members => cases members <;> exact ⟨_, _, rfl, by decide⟩
  | _ => exact ⟨_, _, rfl, by decide⟩

theorem ends_writeItems (items : List Json) (rest : List Char) :
    Ends (writeItems items ++ rest) := by
  cases items <;> simp [Ends, writeItems, isNumberChar]

theorem ends_writeMembers (members : List (String × Json)) (rest : List Char) :
    Ends (writeMembers members ++ rest) := by
  cases members <;> simp [Ends, writeMembers, isNumberChar]

theorem readMember_of_read (key : String) {value : Json} {rest : List Char} {fuel : ℕ}
    (enough : (writeString key).length ≤ fuel + 1)
    (read : read fuel (write value ++ rest) = some (value, rest)) :
    readMember (fuel + 1) (writeString key ++ ':' :: (write value ++ rest)) =
      some ((key, value), rest) := by
  simp [readMember, readString_writeString enough, read]

theorem two_le_length_writeString (value : String) : 2 ≤ (writeString value).length := by
  simp [writeString]

mutual

/-- A document is read back from its text, in front of whatever ends it. -/
theorem read_write (json : Json) {rest : List Char} {fuel : ℕ}
    (enough : (write json).length ≤ fuel) (ends : Ends rest) :
    read fuel (write json ++ rest) = some (json, rest) := by
  rcases exists_cons_write json with ⟨first, tail, cons, _⟩
  obtain ⟨fuel, rfl⟩ : ∃ less, fuel = less + 1 :=
    Nat.exists_eq_succ_of_ne_zero (by rw [cons, List.length_cons] at enough; omega)
  match json with
  | .null => simp [write, read]
  | .bool true => simp [write, read]
  | .bool false => simp [write, read]
  | .number value => exact read_writeNumber ends
  | .string value =>
      have string := @readString_writeString value rest fuel enough
      rw [writeString_append] at string
      rw [write, writeString_append, read, string]
      rfl
  | .array [] => simp [write, read]
  | .array (item :: items) =>
      rcases exists_cons_write item with ⟨first, tail, cons, inside⟩
      simp only [write, List.length_cons, List.length_append] at enough
      have head := @read_write item (writeItems items ++ rest) fuel (by omega)
        (ends_writeItems items rest)
      have later := @readItems_writeItems items rest fuel (by omega)
      rw [write, List.append_assoc, List.cons_append]
      rw [cons, List.cons_append] at head ⊢
      simp [read, inside, head, later]
  | .object [] => simp [write, read]
  | .object ((key, value) :: members) =>
      simp only [write, List.length_cons, List.length_append] at enough
      have quoted := two_le_length_writeString key
      obtain ⟨fuel, rfl⟩ : ∃ less, fuel = less + 1 := Nat.exists_eq_succ_of_ne_zero (by omega)
      have head := readMember_of_read key (by omega)
        (@read_write value (writeMembers members ++ rest) fuel (by omega)
          (ends_writeMembers members rest))
      have later := @readMembers_writeMembers members rest (fuel + 1) (by omega)
      simp only [write, List.append_assoc, List.cons_append, writeString_append] at head ⊢
      simp [read, head, later]

theorem readItems_writeItems (items : List Json) {rest : List Char} {fuel : ℕ}
    (enough : (writeItems items).length ≤ fuel) :
    readItems fuel (writeItems items ++ rest) = some (items, rest) := by
  match items with
  | [] =>
      obtain ⟨fuel, rfl⟩ : ∃ less, fuel = less + 1 :=
        Nat.exists_eq_succ_of_ne_zero (by rw [writeItems] at enough; simp at enough; omega)
      simp [writeItems, readItems]
  | item :: items =>
      simp only [writeItems, List.length_cons, List.length_append] at enough
      obtain ⟨fuel, rfl⟩ : ∃ less, fuel = less + 1 := Nat.exists_eq_succ_of_ne_zero (by omega)
      have head := @read_write item (writeItems items ++ rest) fuel (by omega)
        (ends_writeItems items rest)
      have later := @readItems_writeItems items rest fuel (by omega)
      simp [writeItems, readItems, head, later]

theorem readMembers_writeMembers (members : List (String × Json)) {rest : List Char} {fuel : ℕ}
    (enough : (writeMembers members).length ≤ fuel) :
    readMembers fuel (writeMembers members ++ rest) = some (members, rest) := by
  match members with
  | [] =>
      obtain ⟨fuel, rfl⟩ : ∃ less, fuel = less + 1 :=
        Nat.exists_eq_succ_of_ne_zero (by rw [writeMembers] at enough; simp at enough; omega)
      simp [writeMembers, readMembers]
  | (key, value) :: members =>
      simp only [writeMembers, List.length_cons, List.length_append] at enough
      have quoted := two_le_length_writeString key
      obtain ⟨fuel, rfl⟩ : ∃ less, fuel = less + 2 := Nat.exists_eq_add_of_le' (by omega)
      have head := readMember_of_read key (by omega)
        (@read_write value (writeMembers members ++ rest) fuel (by omega)
          (ends_writeMembers members rest))
      have later := @readMembers_writeMembers members rest (fuel + 1) (by omega)
      simp [writeMembers, readMembers, head, later]

end

/-! ## Bytes -/

theorem length_escape_le (character : Char) : (escape character).length ≤ 6 := by
  unfold escape
  split_ifs <;> simp

theorem length_writeString_le (value : String) :
    (writeString value).length ≤ 6 * value.length + 2 := by
  have escaped : (value.toList.flatMap escape).length ≤ 6 * value.toList.length := by
    induction value.toList with
    | nil => simp
    | cons character characters ih =>
        have first := length_escape_le character
        simp only [List.flatMap_cons, List.length_append, List.length_cons]
        omega
  rw [String.length_toList] at escaped
  simp only [writeString, List.length_append, List.length_cons, List.length_nil]
  omega

def encode (json : Json) : List UInt8 :=
  (String.ofList (write json)).toByteArray.data.toList

def decode (encoded : List UInt8) : Except String Json :=
  match String.fromUTF8? ⟨encoded.toArray⟩ with
  | none => .error "invalid unicode code point"
  | some text =>
    match read text.toList.length text.toList with
    | some (json, []) => .ok json
    | some (_, _ :: _) => .error "trailing characters"
    | none => .error "expected value"

/-- A character takes at most four bytes. -/
theorem length_encode_le (json : Json) : (encode json).length ≤ 4 * (write json).length := by
  have bytes : ∀ characters : List Char, characters.utf8Encode.size ≤ 4 * characters.length := by
    intro characters
    induction characters with
    | nil => simp
    | cons character characters ih =>
        have first := character.utf8Size_le_four
        rw [List.utf8Encode_cons, ByteArray.size_append, List.utf8Encode_singleton]
        simp
        omega
  simpa [encode] using bytes (write json)

theorem decode_encode (json : Json) : decode (encode json) = .ok json := by
  have text : String.fromUTF8? ⟨(encode json).toArray⟩ = some (String.ofList (write json)) :=
    dif_pos (String.ofList (write json)).isValidUTF8
  have whole := @read_write json [] (write json).length le_rfl (by simp [Ends])
  rw [List.append_nil] at whole
  simp only [decode, text, String.toList_ofList, whole]

end Colloq.JsonText

namespace Colloq

/-- The parameters of the model as they are known. -/
def Crates.reference : Crates where
  sha256 := Sha256.digest
  toVec := JsonText.encode
  fromSlice := JsonText.decode

theorem Crates.toVec_reference : Crates.reference.toVec = JsonText.encode := rfl

theorem Crates.reference_lossless : Crates.reference.Lossless := JsonText.decode_encode

end Colloq
