import Colloq.Decode
import Colloq.Leaves

/-!
# Drafts

An Automerge document as a finite tree: every key of a map and every index of a
list holds the values that compete for it, with one of them as the winner. A draft
reads it through the winners, and writes it by scalar patches.
-/

namespace Colloq

/-! ## Documents -/

/-- A scalar of a document. No patch writes the others (bytes, counters, timestamps, unknown
types), of which a reader sees a document or an error. -/
inductive ScalarValue where
  | null
  | boolean (value : Bool)
  | int (value : Int64)
  | uint (value : UInt64)
  | f64 (value : FiniteFloat)
  | str (value : String)
  | other (read : Except String Json)

/-- A value of a document. What competes at a location is the winner and its rivals. -/
inductive Item where
  | scalar (value : ScalarValue)
  | text (value : String)
  | map (entries : List (String × Item × List Item))
  | list (slots : List (Item × List Item))

inductive ObjType where
  | map
  | list
  | text
deriving DecidableEq

namespace Item

/-- What competes at a location, with the winner first. -/
def slot : Item → Location → Option (Item × List Item)
  | .map entries, .key name => entries.lookup name
  | .list slots, .index index => slots[index]?
  | _, _ => none

def child (item : Item) (location : Location) : Option Item := (item.slot location).map Prod.fst

/-- The item at the end of a way through winners. -/
def descend (item : Item) : List Location → Option Item
  | [] => some item
  | location :: way => (item.child location).bind fun child => child.descend way

/-- The slot of a key of a map, or of an existing index of a list, is replaced. -/
def set : Item → Location → Item × List Item → Item
  | .map entries, .key name, slot => .map (Association.assign name slot entries)
  | .list slots, .index index, slot => .list (slots.set index slot)
  | item, _, _ => item

/-- At the end of a way through winners, one scalar replaces everything that competes at a
location. -/
def putAt (item : Item) (way : List Location) (location : Location) (scalar : ScalarValue) : Item :=
  match way with
  | [] => item.set location (.scalar scalar, [])
  | step :: way =>
    match item.slot step with
    | some (winner, rivals) => item.set step (winner.putAt way location scalar, rivals)
    | none => item

/-- No map that is reached through winners holds a key twice. -/
def Distinct (item : Item) : Prop :=
  ∀ way entries, item.descend way = some (.map entries) → (entries.map Prod.fst).Nodup

end Item

namespace Item

variable {item : Item} {location : Location}

/-- A location that can be written to: any key of a map, or an existing index of a list. -/
def HasPlace : Item → Location → Prop
  | .map _, .key _ => True
  | .list slots, .index index => index < slots.length
  | _, _ => False

/-- Setting a place changes nothing at any other one. -/
theorem slot_set (place : item.HasPlace location) (slot : Item × List Item) (other : Location) :
    (item.set location slot).slot other =
      if other = location then some slot else item.slot other := by
  cases item with
  | map entries =>
      cases location with
      | key name =>
          cases other with
          | key otherName => simp [set, Item.slot]
          | index index => simp [set, Item.slot]
      | index index => exact place.elim
  | list slots =>
      cases location with
      | key name => exact place.elim
      | index index =>
          cases other with
          | key name => simp [set, Item.slot]
          | index otherIndex =>
              by_cases same : otherIndex = index
              · subst same
                simp [set, Item.slot, show otherIndex < slots.length from place]
              · simp [set, Item.slot, same, List.getElem?_set_ne (Ne.symm same)]
  | _ => cases location <;> exact place.elim

theorem set_of_not_hasPlace (place : ¬item.HasPlace location) (slot : Item × List Item) :
    item.set location slot = item := by
  cases item with
  | map entries =>
      cases location with
      | key name => exact absurd trivial place
      | index index => rfl
  | list slots =>
      cases location with
      | key name => rfl
      | index index =>
          simp only [HasPlace, not_lt] at place
          rw [set, List.set_eq_of_length_le place]
  | _ => cases location <;> rfl

theorem hasPlace_of_slot {slot : Item × List Item} (found : item.slot location = some slot) :
    item.HasPlace location := by
  cases item with
  | map entries =>
      cases location with
      | key name => trivial
      | index index => simp [Item.slot] at found
  | list slots =>
      cases location with
      | key name => simp [Item.slot] at found
      | index index =>
          rw [Item.slot] at found
          exact (List.getElem?_eq_some_iff.mp found).1
  | _ => simp [Item.slot] at found

/-- The keys of the item itself are distinct, and those of all its children. -/
theorem distinct_iff : item.Distinct ↔
    (∀ entries, item = .map entries → (entries.map Prod.fst).Nodup) ∧
      ∀ location child, item.child location = some child → child.Distinct := by
  constructor
  · intro distinct
    refine ⟨?_, ?_⟩
    · intro entries same
      exact distinct [] entries (by rw [descend, same])
    · intro location child found way entries reached
      apply distinct (location :: way) entries
      rw [descend, found]
      exact reached
  · intro both way entries reached
    cases way with
    | nil =>
        rw [descend, Option.some.injEq] at reached
        exact both.1 entries reached
    | cons location way =>
        rw [descend, Option.bind_eq_some_iff] at reached
        rcases reached with ⟨child, found, reached⟩
        exact both.2 location child found way entries reached

theorem distinct_scalar (scalar : ScalarValue) : (Item.scalar scalar).Distinct := by
  rw [distinct_iff]
  refine ⟨?_, ?_⟩
  · intro entries same
    cases same
  · intro location child found
    simp [Item.child, Item.slot] at found

/-- Setting a place keeps the keys of every map distinct. -/
theorem Distinct.set (distinct : item.Distinct) {slot : Item × List Item}
    (winner : slot.1.Distinct) : (item.set location slot).Distinct := by
  by_cases place : item.HasPlace location
  · rw [distinct_iff] at distinct ⊢
    refine ⟨?_, ?_⟩
    · intro entries same
      cases item with
      | map before =>
          cases location with
          | key name =>
              rw [Item.set, Item.map.injEq] at same
              rw [← same]
              exact Association.nodup_keys_assign name slot (distinct.1 before rfl)
          | index index => exact place.elim
      | list slots =>
          cases location with
          | key name => exact place.elim
          | index index => cases same
      | _ => cases location <;> exact place.elim
    · intro other child found
      rw [Item.child, slot_set place] at found
      split_ifs at found with same
      · rw [Option.map_some, Option.some.injEq] at found
        rw [← found]
        exact winner
      · exact distinct.2 other child found
  · rw [set_of_not_hasPlace place]
    exact distinct

theorem Distinct.putAt (distinct : item.Distinct) (way : List Location) (scalar : ScalarValue) :
    (item.putAt way location scalar).Distinct := by
  induction way generalizing item with
  | nil => exact distinct.set (distinct_scalar scalar)
  | cons step way ih =>
      rw [Item.putAt]
      cases found : item.slot step with
      | none => exact distinct
      | some slot =>
          apply distinct.set
          apply ih
          exact (distinct_iff.mp distinct).2 step slot.1
            (by rw [Item.child, found, Option.map_some])

/-- The entries of a map. -/
def entries : Item → List (String × Item × List Item)
  | .map entries => entries
  | _ => []

/-- Writing to a map leaves a map. -/
theorem putAt_map (entries : List (String × Item × List Item)) (way : List Location)
    (location : Location) (scalar : ScalarValue) :
    .map ((Item.map entries).putAt way location scalar).entries =
      (Item.map entries).putAt way location scalar := by
  have kept : ∀ location slot,
      .map ((Item.map entries).set location slot).entries =
        (Item.map entries).set location slot := by
    intro location slot
    cases location <;> rfl
  cases way with
  | nil => exact kept _ _
  | cons step way =>
      rw [Item.putAt]
      cases (Item.map entries).slot step with
      | none => rfl
      | some slot => exact kept _ _

end Item

/-- `ChangeHash` -/
abbrev ChangeHash := Vector UInt8 32

/-- An Automerge document. Its root is a map. -/
structure AutomergeDraft where
  heads : List ChangeHash
  root : List (String × Item × List Item)
  distinct : (Item.map root).Distinct

/-- An object of a document, with the way that leads to it. -/
structure ObjId where
  way : List Location
  object : Item

def AutomergeDraft.rootId (draft : AutomergeDraft) : ObjId := ⟨[], .map draft.root⟩

inductive DraftError where
  | automerge (error : String)
  | json (error : String)
  | validation (errors : ValidationErrors)
  | plan (error : PlanError)
  | staleBase
  | invalidPointer (path detail : String)
  | nonScalarPatch (path : String)
  | unresolvedConflicts (paths : String)

/-! ## Pointers -/

/-- `str::replace` of one character. -/
def replaceChar (character : Char) (text : List Char) (value : List Char) : List Char :=
  value.flatMap fun other => if other = character then text else [other]

def pushPointerSegment (path segment : String) : String :=
  path ++ "/" ++ String.ofList
    (replaceChar '/' ['~', '1'] (replaceChar '~' ['~', '0'] segment.toList))

/-- The loop of `decode_pointer_segment`. -/
def decodeEscapes : List Char → Option (List Char)
  | [] => some []
  | '~' :: characters =>
    match characters with
    | '0' :: characters => (decodeEscapes characters).map ('~' :: ·)
    | '1' :: characters => (decodeEscapes characters).map ('/' :: ·)
    | _ => none
  | character :: characters => (decodeEscapes characters).map (character :: ·)

def decodePointerSegment (path : String) (segment : List Char) : Except DraftError String :=
  match decodeEscapes segment with
  | some characters => .ok (String.ofList characters)
  | none => .error (.invalidPointer path "invalid '~' escape")

def parsePointer (path : String) : Except DraftError (List String) :=
  match path.toList with
  | '/' :: rest =>
    if rest = [] then
      .error (.invalidPointer path "the path must begin with '/' and name at least one field")
    else (rest.splitOn '/').mapM (decodePointerSegment path)
  | _ => .error (.invalidPointer path "the path must begin with '/' and name at least one field")

/-- `str::parse::<usize>`: an optional `+`, digits, and no overflow. -/
def parseUsize (text : String) : Option ℕ :=
  let digits : List Char := match text.toList with
    | '+' :: digits => digits
    | digits => digits
  let value := digits.foldl (fun value digit => 10 * value + (digit.toNat - '0'.toNat)) 0
  if digits ≠ [] ∧ digits.all Char.isDigit = true ∧ value < 2 ^ 64 then some value else none

def pointerIndex (path segment : String) : Except DraftError ℕ :=
  match parseUsize segment with
  | some index => .ok index
  | none => .error (.invalidPointer path s!"{segment.quote} is not a list index")

/-! ## Scalars -/

/-- The three-way split of a number: `as_i64`, then `as_u64`, then `as_f64`. -/
def ScalarValue.ofNumber : Number → ScalarValue
  | .posInt value => if value.toNat < 2 ^ 63 then .int value.toInt64 else .uint value
  | .negInt value _ => .int value
  | .float value => .f64 value

def jsonToScalar (path : String) : Json → Except DraftError ScalarValue
  | .null => .ok .null
  | .bool value => .ok (.boolean value)
  | .number value => .ok (.ofNumber value)
  | .string value => .ok (.str value)
  | .array _ | .object _ => .error (.nonScalarPatch path)

/-- What `AutoSerde` writes for a scalar. -/
def ScalarValue.materialize : ScalarValue → Except String Json
  | .null => .ok .null
  | .boolean value => .ok (.bool value)
  | .int value =>
    if negative : value < 0 then .ok (.number (.negInt value negative))
    else .ok (.number (.posInt value.toUInt64))
  | .uint value => .ok (.number (.posInt value))
  | .f64 value => .ok (.number (.float value))
  | .str value => .ok (.string value)
  | .other read => read

namespace Item

mutual

/-- What `AutoSerde` writes for a document: the winners. -/
def materialize : Item → Except String Json
  | .scalar value => value.materialize
  | .text value => .ok (.string value)
  | .map entries => do return .object (← materializeEntries entries)
  | .list slots => do return .array (← materializeSlots slots)

def materializeEntries :
    List (String × Item × List Item) → Except String (List (String × Json))
  | [] => .ok []
  | (key, winner, _) :: entries => do
    let json ← winner.materialize
    let members ← materializeEntries entries
    return (key, json) :: members

def materializeSlots : List (Item × List Item) → Except String (List Json)
  | [] => .ok []
  | (winner, _) :: slots => do
    let json ← winner.materialize
    let items ← materializeSlots slots
    return json :: items

end

end Item

/-- `serde_json::to_value(AutoSerde::from(&self.document))` -/
def AutomergeDraft.materialize (draft : AutomergeDraft) : Except DraftError Value :=
  match (Item.map draft.root).materialize with
  | .ok json => .ok (.fromJson json)
  | .error error => .error (.json error)

/-! ## Reading and writing a document -/

namespace ObjId

def objectType (id : ObjId) : Except DraftError ObjType :=
  match id.object with
  | .map _ => .ok .map
  | .list _ => .ok .list
  | .text _ => .ok .text
  | .scalar _ => .error (.automerge "not an object")

/-- The number of the values that compete at a location. -/
def getAll (id : ObjId) (location : Location) : List Item :=
  match id.object.slot location with
  | some (winner, rivals) => winner :: rivals
  | none => []

/-- The winner at a location. If it is an object, this is also its id. -/
def get (id : ObjId) (location : Location) : Option ObjId :=
  (id.object.child location).map fun child => ⟨id.way ++ [location], child⟩

def length (id : ObjId) : ℕ :=
  match id.object with
  | .list slots => slots.length
  | .map entries => entries.length
  | .text _ | .scalar _ => 0

end ObjId

def textContainer (path : String) : DraftError :=
  .invalidPointer path "text objects are not valid Colloq graph containers"

/-- The location that a segment names in an object. -/
def locate (object : ObjId) (segment path : String) : Except DraftError Location := do
  match ← object.objectType with
  | .map => return .key segment
  | .list => return .index (← pointerIndex path segment)
  | .text => .error (textContainer path)

def childObject (object : ObjId) (segment path : String) : Except DraftError ObjId := do
  let location ← locate object segment path
  Checked.ensure ((object.getAll location).length ≤ 1) (.unresolvedConflicts path)
  match object.get location with
  | some child =>
    match child.object with
    | .scalar _ => .error (.invalidPointer path "an intermediate value is a scalar")
    | .text _ | .map _ | .list _ => .ok child
  | none => .error (.invalidPointer path "an intermediate value does not exist")

/-- The loop of `apply_scalar_patch` over the segments of the parent. -/
def walk : ObjId → String → List String → Except DraftError ObjId
  | object, _, [] => .ok object
  | object, traversed, segment :: segments => do
    let traversed := pushPointerSegment traversed segment
    let child ← childObject object segment traversed
    walk child traversed segments

structure DraftScalarPatch where
  path : String
  value : Value

/-- The location that the last segment names: an index has to exist, a key does not. -/
def patchLocation (path : String) (parent : ObjId) (segment : String) :
    Except DraftError Location := do
  let location ← locate parent segment path
  match location with
  | .key _ => return location
  | .index index =>
    Checked.ensure (index < parent.length)
      (.invalidPointer path s!"list index {index} does not exist")
    return location

/-- What the model does not know of Automerge. -/
structure Automerge where
  /-- The heads after a scalar was put at a location. -/
  headsAfterPut : AutomergeDraft → List Location → Location → ScalarValue → List ChangeHash

namespace AutomergeDraft

variable (automerge : Automerge)

def put (draft : AutomergeDraft) (object : ObjId) (location : Location)
    (scalar : ScalarValue) : AutomergeDraft where
  heads := automerge.headsAfterPut draft object.way location scalar
  root := ((Item.map draft.root).putAt object.way location scalar).entries
  distinct := by
    rw [Item.putAt_map]
    exact draft.distinct.putAt object.way scalar

/-- A split has at least one piece, so there is a final segment. -/
def applyScalarPatch (expectedHeads : List ChangeHash) (patch : DraftScalarPatch) :
    ExceptT DraftError (StateM AutomergeDraft) (List ChangeHash) := do
  let draft ← get
  ofExcept (Checked.ensure (draft.heads = expectedHeads) .staleBase)
  let segments ← ofExcept (parsePointer patch.path)
  let parent ← ofExcept (walk draft.rootId "" segments.dropLast)
  let scalar ← ofExcept (jsonToScalar patch.path patch.value.json)
  let location ← ofExcept (patchLocation patch.path parent (segments.getLastD ""))
  let patched := put automerge draft parent location scalar
  set patched
  return patched.heads

/-- What a patch returns, and the draft that it leaves. -/
def patched (expectedHeads : List ChangeHash) (patch : DraftScalarPatch)
    (draft : AutomergeDraft) : Except DraftError (List ChangeHash) × AutomergeDraft :=
  (ExceptT.run (applyScalarPatch automerge expectedHeads patch)).run draft

end AutomergeDraft

/-! ## Conflicts and promotion -/

structure DraftConflict where
  path : String
  competingValues : ℕ
deriving DecidableEq

/-- What `collect_conflicts` pushes for one location. -/
def conflictAt (path : String) (rivals : List Item) : List DraftConflict :=
  match rivals with
  | [] => []
  | _ :: _ => [{ path, competingValues := 1 + rivals.length }]

namespace Item

mutual

def collectConflicts (path : String) : Item → List DraftConflict
  | .map entries => collectEntryConflicts path entries
  | .list slots => collectSlotConflicts path 0 slots
  | .text _ | .scalar _ => []

/-- The loop over the keys of a map. -/
def collectEntryConflicts (path : String) :
    List (String × Item × List Item) → List DraftConflict
  | [] => []
  | (key, winner, rivals) :: entries =>
    let childPath := pushPointerSegment path key
    conflictAt childPath rivals ++ winner.collectConflicts childPath ++
      collectEntryConflicts path entries

/-- The loop over the indices of a list. -/
def collectSlotConflicts (path : String) (index : ℕ) :
    List (Item × List Item) → List DraftConflict
  | [] => []
  | (winner, rivals) :: slots =>
    let childPath := s!"{path}/{index}"
    conflictAt childPath rivals ++ winner.collectConflicts childPath ++
      collectSlotConflicts path (index + 1) slots

end

end Item

structure PromotedDraft where
  conversation : Conversation
  conversationIdentity : String
  plan : ColloqPlan

namespace AutomergeDraft

def conflicts (draft : AutomergeDraft) : List DraftConflict :=
  (Item.map draft.root).collectConflicts ""

def promote (crates : Crates) (draft : AutomergeDraft) : Except DraftError PromotedDraft := do
  let conflicts := draft.conflicts
  Checked.ensure (conflicts = [])
    (.unresolvedConflicts (", ".intercalate (conflicts.map DraftConflict.path)))
  let value ← draft.materialize
  let conversation ← (Conversation.fromJson value.json).mapError .json
  (validate conversation).mapError .validation
  let plan ← (ColloqPlan.compile crates conversation).mapError .plan
  return { conversation, conversationIdentity := plan.conversationIdentity, plan }

end AutomergeDraft

end Colloq
