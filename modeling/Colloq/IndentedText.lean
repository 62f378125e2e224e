import Colloq.JsonText

/-!
# The indented JSON text

The pretty formatter of `serde_json` sets the same tokens apart by whitespace. A
reader that leaves out the whitespace between tokens takes both texts.
-/

namespace Colloq.JsonText

/-! ## Writing -/

/-- What a formatter puts between tokens: in front of an item at some depth, in front of the end
of a container, and after a key. -/
structure Layout where
  newline : ℕ → List Char
  colon : List Char

/-- `PrettyFormatter` -/
def Layout.pretty : Layout := ⟨fun depth => '\n' :: List.replicate (2 * depth) ' ', [':', ' ']⟩

section Write

variable (layout : Layout)

mutual

def layOut (depth : ℕ) : Json → List Char
  | .array [] => ['[', ']']
  | .array (item :: items) =>
      '[' :: layout.newline (depth + 1) ++ layOut (depth + 1) item ++ layOutItems depth items
  | .object [] => ['{', '}']
  | .object ((key, value) :: members) =>
      '{' :: layout.newline (depth + 1) ++ writeString key ++ layout.colon ++
        layOut (depth + 1) value ++ layOutMembers depth members
  | .null => write .null
  | .bool value => write (.bool value)
  | .number value => write (.number value)
  | .string value => write (.string value)

def layOutItems (depth : ℕ) : List Json → List Char
  | [] => layout.newline depth ++ [']']
  | item :: items =>
      ',' :: layout.newline (depth + 1) ++ layOut (depth + 1) item ++ layOutItems depth items

def layOutMembers (depth : ℕ) : List (String × Json) → List Char
  | [] => layout.newline depth ++ ['}']
  | (key, value) :: members =>
      ',' :: layout.newline (depth + 1) ++ writeString key ++ layout.colon ++
        layOut (depth + 1) value ++ layOutMembers depth members

end

end Write

/-! ## Leaving out the whitespace -/

/-- `b' ' | b'\n' | b'\t' | b'\r'` -/
def isBlank (character : Char) : Bool :=
  character = ' ' || character = '\n' || character = '\t' || character = '\r'

mutual

/-- Between tokens. -/
def squeeze : List Char → List Char
  | [] => []
  | character :: rest =>
    if character = '"' then '"' :: squeezeString rest
    else if isBlank character then squeeze rest
    else character :: squeeze rest

/-- Inside a string. -/
def squeezeString : List Char → List Char
  | [] => []
  | '"' :: rest => '"' :: squeeze rest
  | '\\' :: escaped :: rest => '\\' :: escaped :: squeezeString rest
  | character :: rest => character :: squeezeString rest

end

theorem squeeze_blank {blanks rest : List Char} (blank : ∀ character ∈ blanks, isBlank character) :
    squeeze (blanks ++ rest) = squeeze rest := by
  induction blanks with
  | nil => rfl
  | cons character blanks ih =>
      rw [List.forall_mem_cons] at blank
      have noQuote : character ≠ '"' := by
        intro same
        rw [same] at blank
        exact absurd blank.1 (by decide)
      rw [List.cons_append, squeeze, if_neg noQuote, if_pos blank.1, ih blank.2]

/-- A token without whitespace that is no string. -/
def IsToken (token : List Char) : Prop :=
  ∀ character ∈ token, character ≠ '"' ∧ isBlank character = false

theorem squeeze_token {token rest : List Char} (isToken : IsToken token) :
    squeeze (token ++ rest) = token ++ squeeze rest := by
  induction token with
  | nil => rfl
  | cons character token ih =>
      rw [IsToken, List.forall_mem_cons] at isToken
      rw [List.cons_append, squeeze, if_neg isToken.1.1, isToken.1.2, ih isToken.2]
      rfl

theorem squeezeString_plain {character : Char} {rest : List Char} (noQuote : character ≠ '"')
    (noBackslash : character ≠ '\\') :
    squeezeString (character :: rest) = character :: squeezeString rest := by
  rw [squeezeString.eq_def]
  split
  · contradiction
  · rename_i same
    exact absurd (List.cons.inj same).1 noQuote
  · rename_i same
    exact absurd (List.cons.inj same).1 noBackslash
  · rename_i same
    rw [(List.cons.inj same).1, (List.cons.inj same).2]

/-- The escape of a character is kept, and does not end the string. -/
theorem squeezeString_escape (character : Char) (rest : List Char) :
    squeezeString (escape character ++ rest) = escape character ++ squeezeString rest := by
  unfold escape
  split_ifs with quote backslash b f n r t control
  · rfl
  · rfl
  · rfl
  · rfl
  · rfl
  · rfl
  · rfl
  · have digit : ∀ value, value < 16 → Nat.digitChar value ≠ '"' ∧ Nat.digitChar value ≠ '\\' := by
      intro value bound
      interval_cases value <;> decide
    have high := digit (character.toNat / 16) (by omega)
    have low := digit (character.toNat % 16) (Nat.mod_lt _ (by decide))
    change '\\' :: 'u' :: squeezeString ('0' :: '0' :: Nat.digitChar (character.toNat / 16) ::
      Nat.digitChar (character.toNat % 16) :: rest) = _
    rw [squeezeString_plain (by decide) (by decide), squeezeString_plain (by decide) (by decide),
      squeezeString_plain high.1 high.2, squeezeString_plain low.1 low.2]
    rfl
  · exact squeezeString_plain quote backslash

theorem squeeze_writeString (value : String) (rest : List Char) :
    squeeze (writeString value ++ rest) = writeString value ++ squeeze rest := by
  have inside : ∀ characters : List Char,
      squeezeString (characters.flatMap escape ++ '"' :: rest) =
        characters.flatMap escape ++ '"' :: squeeze rest := by
    intro characters
    induction characters with
    | nil => rfl
    | cons character characters ih =>
        rw [List.flatMap_cons, List.append_assoc, squeezeString_escape, ih, List.append_assoc]
  rw [writeString_append, writeString_append, squeeze, if_pos rfl, inside]

theorem isToken_writeNumber (value : Number) : IsToken (writeNumber value) := by
  intro character member
  have isNumber := isNumberChar_writeNumber member
  constructor
  · intro same
    rw [same] at isNumber
    exact absurd isNumber (by decide)
  · rw [← Bool.not_eq_true]
    intro blank
    simp only [isBlank, Bool.or_eq_true, decide_eq_true_eq] at blank
    rcases blank with ((same | same) | same) | same <;>
      · rw [same] at isNumber
        exact absurd isNumber (by decide)

/-- A layout that sets tokens apart by whitespace only. -/
structure Layout.Blank (layout : Layout) : Prop where
  newline : ∀ depth, ∀ character ∈ layout.newline depth, isBlank character = true
  colon : ∃ blanks, layout.colon = ':' :: blanks ∧
    ∀ character ∈ blanks, isBlank character = true

theorem Layout.blank_pretty : Layout.pretty.Blank where
  newline := by simp [pretty, isBlank]
  colon := ⟨[' '], rfl, by simp [isBlank]⟩

theorem squeeze_newline {layout : Layout} (blank : layout.Blank) (depth : ℕ) (rest : List Char) :
    squeeze (layout.newline depth ++ rest) = squeeze rest :=
  squeeze_blank (blank.newline depth)

theorem squeeze_colon {layout : Layout} (blank : layout.Blank) (rest : List Char) :
    squeeze (layout.colon ++ rest) = ':' :: squeeze rest := by
  rcases blank.colon with ⟨blanks, same, isBlank⟩
  have colon : IsToken [':'] := by simp [IsToken, JsonText.isBlank]
  rw [same, ← List.singleton_append, List.append_assoc, squeeze_token colon, squeeze_blank isBlank]
  rfl

/-- A mark between tokens. -/
theorem squeeze_mark {mark : Char} (isToken : IsToken [mark]) (rest : List Char) :
    squeeze (mark :: rest) = mark :: squeeze rest :=
  squeeze_token isToken

mutual

/-- What is left without the whitespace is the compact text. -/
theorem squeeze_layOut {layout : Layout} (blank : layout.Blank) (depth : ℕ) (json : Json)
    (rest : List Char) :
    squeeze (layOut layout depth json ++ rest) = write json ++ squeeze rest := by
  cases json with
  | null => exact squeeze_token (by simp [IsToken, isBlank, layOut, write])
  | bool value =>
      cases value with
      | false => exact squeeze_token (by simp [IsToken, isBlank, layOut, write])
      | true => exact squeeze_token (by simp [IsToken, isBlank, layOut, write])
  | number value => exact squeeze_token (isToken_writeNumber value)
  | string value => exact squeeze_writeString value rest
  | array items =>
      cases items with
      | nil => exact squeeze_token (by simp [IsToken, isBlank, layOut])
      | cons item items =>
          simp only [layOut, write, List.cons_append, List.append_assoc]
          rw [squeeze_mark (by simp [IsToken, isBlank]), squeeze_newline blank,
            squeeze_layOut blank (depth + 1) item, squeeze_layOutItems blank depth items]
  | object members =>
      cases members with
      | nil => exact squeeze_token (by simp [IsToken, isBlank, layOut])
      | cons member members =>
          simp only [layOut, write, List.cons_append, List.append_assoc]
          rw [squeeze_mark (by simp [IsToken, isBlank]), squeeze_newline blank,
            squeeze_writeString, squeeze_colon blank, squeeze_layOut blank (depth + 1) member.2,
            squeeze_layOutMembers blank depth members]

theorem squeeze_layOutItems {layout : Layout} (blank : layout.Blank) (depth : ℕ)
    (items : List Json) (rest : List Char) :
    squeeze (layOutItems layout depth items ++ rest) = writeItems items ++ squeeze rest := by
  cases items with
  | nil =>
      rw [layOutItems, writeItems, List.append_assoc, squeeze_newline blank]
      exact squeeze_mark (by simp [IsToken, isBlank]) rest
  | cons item items =>
      simp only [layOutItems, writeItems, List.cons_append, List.append_assoc]
      rw [squeeze_mark (by simp [IsToken, isBlank]), squeeze_newline blank,
        squeeze_layOut blank (depth + 1) item, squeeze_layOutItems blank depth items]

theorem squeeze_layOutMembers {layout : Layout} (blank : layout.Blank) (depth : ℕ)
    (members : List (String × Json)) (rest : List Char) :
    squeeze (layOutMembers layout depth members ++ rest) =
      writeMembers members ++ squeeze rest := by
  cases members with
  | nil =>
      rw [layOutMembers, writeMembers, List.append_assoc, squeeze_newline blank]
      exact squeeze_mark (by simp [IsToken, isBlank]) rest
  | cons member members =>
      simp only [layOutMembers, writeMembers, List.cons_append, List.append_assoc]
      rw [squeeze_mark (by simp [IsToken, isBlank]), squeeze_newline blank, squeeze_writeString,
        squeeze_colon blank, squeeze_layOut blank (depth + 1) member.2,
        squeeze_layOutMembers blank depth members]

end

/-! ## Bytes -/

def encodePretty (json : Json) : List UInt8 :=
  (String.ofList (layOut .pretty 0 json)).toByteArray.data.toList

/-- A reader to which whitespace between tokens means nothing. -/
def decodeBlank (encoded : List UInt8) : Except String Json :=
  match String.fromUTF8? ⟨encoded.toArray⟩ with
  | none => .error "invalid unicode code point"
  | some text => decode (String.ofList (squeeze text.toList)).toByteArray.data.toList

theorem decodeBlank_of_layOut {layout : Layout} (blank : layout.Blank) (json : Json)
    {ending : List Char} (blankEnding : ∀ character ∈ ending, isBlank character = true) :
    decodeBlank (String.ofList (layOut layout 0 json ++ ending)).toByteArray.data.toList =
      .ok json := by
  have text : String.fromUTF8?
      ⟨(String.ofList (layOut layout 0 json ++ ending)).toByteArray.data.toList.toArray⟩ =
        some (String.ofList (layOut layout 0 json ++ ending)) :=
    dif_pos (String.ofList (layOut layout 0 json ++ ending)).isValidUTF8
  have ended : squeeze ending = [] := by
    have squeezed := @squeeze_blank ending [] blankEnding
    rwa [List.append_nil] at squeezed
  simp only [decodeBlank, text, String.toList_ofList, squeeze_layOut blank, ended, List.append_nil]
  exact decode_encode json

theorem decodeBlank_encodePretty (json : Json) : decodeBlank (encodePretty json) = .ok json := by
  have read := @decodeBlank_of_layOut _ Layout.blank_pretty json [] (by simp)
  rwa [List.append_nil] at read

/-- The same for a text that ends a line. -/
theorem decodeBlank_encodePretty_line (json : Json) :
    decodeBlank (encodePretty json ++ [0x0A]) = .ok json := by
  have read := @decodeBlank_of_layOut _ Layout.blank_pretty json ['\n'] (by simp [isBlank])
  have bytes : encodePretty json ++ [0x0A] =
      (String.ofList (layOut .pretty 0 json ++ ['\n'])).toByteArray.data.toList := by
    rw [String.ofList_append, String.toByteArray_append, ByteArray.data_append,
      Array.toList_append]
    rfl
  rwa [← bytes] at read

theorem encodePretty_injective : Function.Injective encodePretty := by
  intro first second same
  have read := decodeBlank_encodePretty first
  rw [same, decodeBlank_encodePretty] at read
  exact (Except.ok.inj read).symm

end Colloq.JsonText

namespace Colloq

/-- The parameters of the model with a reader that takes every layout. -/
def Crates.blankReference : Crates := { Crates.reference with fromSlice := JsonText.decodeBlank }

end Colloq
