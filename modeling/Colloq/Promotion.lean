import Colloq.Patch

/-!
# Conflicts and promotion

The conflicts of a draft are the locations that are reached through winners and
hold rivals, and their paths decode to these locations. A draft with a conflict is
not promoted.
-/

namespace Colloq

/-! ## Pointers -/

/-- A character of a pointer segment. -/
def escapePointer (character : Char) : List Char :=
  if character = '~' then ['~', '0'] else if character = '/' then ['~', '1'] else [character]

theorem replaceChar_replaceChar (segment : List Char) :
    replaceChar '/' ['~', '1'] (replaceChar '~' ['~', '0'] segment) =
      segment.flatMap escapePointer := by
  rw [replaceChar, replaceChar, List.flatMap_assoc]
  congr 1
  funext character
  rw [escapePointer]
  split_ifs with tilde slash <;> simp_all

theorem toList_pushPointerSegment (path segment : String) :
    (pushPointerSegment path segment).toList =
      path.toList ++ '/' :: segment.toList.flatMap escapePointer := by
  simp [pushPointerSegment, replaceChar_replaceChar]

theorem slash_notMem_escape (segment : List Char) : '/' ∉ segment.flatMap escapePointer := by
  intro member
  rcases List.mem_flatMap.mp member with ⟨character, _, inside⟩
  rw [escapePointer] at inside
  split_ifs at inside with tilde slash
  · simp at inside
  · simp at inside
  · exact slash (List.mem_singleton.mp inside).symm

theorem decodeEscapes_escape (segment : List Char) :
    decodeEscapes (segment.flatMap escapePointer) = some segment := by
  induction segment with
  | nil => rfl
  | cons character segment ih =>
      rw [List.flatMap_cons, escapePointer]
      split_ifs with tilde slash
      · subst tilde
        simp [decodeEscapes, ih]
      · subst slash
        simp [decodeEscapes, ih]
      · simp [decodeEscapes, ih]

/-- The path that names the segments one after the other. -/
def pointer (segments : List String) : String := segments.foldl pushPointerSegment ""

theorem toList_foldl_pushPointerSegment (path : String) (segments : List String) :
    (segments.foldl pushPointerSegment path).toList =
      path.toList ++ segments.flatMap fun segment =>
        '/' :: segment.toList.flatMap escapePointer := by
  induction segments generalizing path with
  | nil => simp
  | cons segment segments ih =>
      rw [List.foldl_cons, ih, toList_pushPointerSegment]
      simp

theorem flatMap_slash (pieces : List (List Char)) (nonempty : pieces ≠ []) :
    (pieces.flatMap fun piece => '/' :: piece) = '/' :: ['/'].intercalate pieces := by
  induction pieces with
  | nil => exact absurd rfl nonempty
  | cons piece pieces ih =>
      cases pieces with
      | nil => simp [List.intercalate]
      | cons next pieces =>
          rw [List.flatMap_cons, ih (by simp)]
          simp [List.intercalate]

theorem intercalate_ne_nil {pieces : List (List Char)} (nonempty : pieces ≠ [])
    (named : pieces ≠ [[]]) : ['/'].intercalate pieces ≠ [] := by
  cases pieces with
  | nil => exact absurd rfl nonempty
  | cons piece pieces =>
      cases pieces with
      | nil =>
          intro empty
          apply named
          simpa [List.intercalate] using empty
      | cons next pieces => simp [List.intercalate]

/-- Segments are read back from the path that names them, unless that path is the root. -/
theorem parsePointer_pointer {segments : List String} (nonempty : segments ≠ [])
    (named : segments ≠ [""]) : parsePointer (pointer segments) = .ok segments := by
  let pieces := segments.map fun segment => segment.toList.flatMap escapePointer
  have piecesNonempty : pieces ≠ [] := by simpa [pieces] using nonempty
  have text : (pointer segments).toList = '/' :: ['/'].intercalate pieces := by
    rw [pointer, toList_foldl_pushPointerSegment, ← flatMap_slash pieces piecesNonempty]
    simp [pieces, List.flatMap_map]
  have piecesNamed : pieces ≠ [[]] := by
    intro root
    apply named
    rcases List.map_eq_singleton_iff.mp root with ⟨segment, same, empty⟩
    rw [same]
    have blank := congrArg decodeEscapes empty
    rw [decodeEscapes_escape, decodeEscapes, Option.some.injEq] at blank
    rw [← String.toList_inj.mp (blank.trans String.toList_empty.symm)]
  have split : (['/'].intercalate pieces).splitOn '/' = pieces := by
    apply List.splitOn_intercalate _ _ piecesNonempty
    intro piece member
    rcases List.mem_map.mp member with ⟨segment, _, same⟩
    rw [← same]
    exact slash_notMem_escape _
  rw [parsePointer, text]
  simp only [intercalate_ne_nil piecesNonempty piecesNamed, if_false, split]
  rw [mapM_eq_ok_iff, List.forall₂_map_left_iff]
  apply List.forall₂_same.mpr
  intro segment _
  simp [decodePointerSegment, decodeEscapes_escape]

/-- No piece has the separator. -/
theorem notMem_of_mem_splitOn {separator : Char} {text piece : List Char}
    (member : piece ∈ text.splitOn separator) : separator ∉ piece := by
  induction text generalizing piece with
  | nil =>
      rw [List.splitOn_nil, List.mem_singleton] at member
      simp [member]
  | cons character text ih =>
      rw [List.splitOn_cons_eq_if_modifyHead] at member
      split_ifs at member with same
      · rcases List.mem_cons.mp member with empty | member
        · simp [empty]
        · exact ih member
      · rcases pieces : text.splitOn separator with _ | ⟨first, rest⟩
        · exact absurd pieces (List.splitOn_ne_nil _ _)
        · rw [pieces, List.modifyHead_cons] at member
          rcases List.mem_cons.mp member with longer | member
          · rw [longer, List.mem_cons, not_or]
            refine ⟨?_, ih (by simp [pieces])⟩
            intro equal
            simp [equal] at same
          · exact ih (by simp [pieces, member])

/-- An escaped text is the only text of its value. -/
theorem escape_of_decodeEscapes {text value : List Char} (plain : '/' ∉ text)
    (decoded : decodeEscapes text = some value) : value.flatMap escapePointer = text := by
  induction text using decodeEscapes.induct generalizing value with
  | case1 => simp [← Option.some.inj decoded]
  | case2 rest ih =>
      simp only [decodeEscapes, Option.map_eq_some_iff] at decoded
      rcases decoded with ⟨others, decoded, same⟩
      subst value
      simp only [List.mem_cons, not_or] at plain
      rw [List.flatMap_cons, ih plain.2.2 decoded]
      rfl
  | case3 rest ih =>
      simp only [decodeEscapes, Option.map_eq_some_iff] at decoded
      rcases decoded with ⟨others, decoded, same⟩
      subst value
      simp only [List.mem_cons, not_or] at plain
      rw [List.flatMap_cons, ih plain.2.2 decoded]
      rfl
  | case4 rest zero one => simp [decodeEscapes] at decoded
  | case5 character rest tilde ih =>
      simp only [decodeEscapes, Option.map_eq_some_iff] at decoded
      rcases decoded with ⟨others, decoded, same⟩
      subst value
      simp only [List.mem_cons, not_or] at plain
      rw [List.flatMap_cons, ih plain.2 decoded, escapePointer, if_neg tilde,
        if_neg (Ne.symm plain.1)]
      rfl

/-- A parsed path is the one that names its segments. -/
theorem pointer_of_parsePointer {path : String} {segments : List String}
    (parsed : parsePointer path = .ok segments) : pointer segments = path := by
  rw [parsePointer] at parsed
  split at parsed
  · rename_i rest text
    split_ifs at parsed with root
    rw [mapM_eq_ok_iff] at parsed
    have escaped : segments.map (fun segment => segment.toList.flatMap escapePointer) =
        rest.splitOn '/' := by
      have plain : ∀ piece ∈ rest.splitOn '/', '/' ∉ piece := fun _ => notMem_of_mem_splitOn
      generalize rest.splitOn '/' = pieces at parsed plain
      induction parsed with
      | nil => rfl
      | @cons piece segment pieces segments decoded _ ih =>
          rw [decodePointerSegment] at decoded
          split at decoded
          · rename_i characters read
            rw [List.map_cons, ih fun piece member => plain piece (List.mem_cons_of_mem _ member),
              ← Except.ok.inj decoded, String.toList_ofList,
              escape_of_decodeEscapes (plain piece List.mem_cons_self) read]
          · simp at decoded
    apply String.toList_inj.mp
    rw [pointer, toList_foldl_pushPointerSegment, text]
    have named := flatMap_slash (rest.splitOn '/') (List.splitOn_ne_nil _ _)
    rw [List.intercalate_splitOn, ← escaped, List.flatMap_map] at named
    simpa using named
  · simp at parsed

theorem parsePointer_nil (path : String) : parsePointer path ≠ .ok [] := by
  intro parsed
  have empty := pointer_of_parsePointer parsed
  rw [← empty] at parsed
  simp [pointer, parsePointer] at parsed

theorem parsePointer_root (path : String) : parsePointer path ≠ .ok [""] := by
  intro parsed
  have root := pointer_of_parsePointer parsed
  rw [← root] at parsed
  have slash : (pointer [""]).toList = ['/'] := rfl
  simp [parsePointer, slash] at parsed

/-- Paths that are accepted and lists of segments correspond one to one. -/
theorem pointers_correspond :
    (∀ segments : List String, segments ≠ [] → segments ≠ [""] →
      parsePointer (segments.foldl pushPointerSegment "") = .ok segments) ∧
    (∀ path segments, parsePointer path = .ok segments →
      segments.foldl pushPointerSegment "" = path) ∧
    ∀ path, (∃ segments, parsePointer path = .ok segments) ↔
      ∃ segments, segments ≠ [] ∧ segments ≠ [""] ∧
        path = segments.foldl pushPointerSegment "" := by
  refine ⟨fun _ => parsePointer_pointer, fun _ _ => pointer_of_parsePointer, ?_⟩
  intro path
  constructor
  · rintro ⟨segments, parsed⟩
    refine ⟨segments, ?_, ?_, (pointer_of_parsePointer parsed).symm⟩
    · intro empty
      exact parsePointer_nil path (empty ▸ parsed)
    · intro root
      exact parsePointer_root path (root ▸ parsed)
  · rintro ⟨segments, nonempty, named, same⟩
    rw [same]
    exact ⟨segments, parsePointer_pointer nonempty named⟩

theorem pointers_correspond_tilde :
    parsePointer (["~01", "", "a/b"].foldl pushPointerSegment "") = .ok ["~01", "", "a/b"] ∧
      ["~01", "", "a/b"].foldl pushPointerSegment "" = "/~001//a~1b" := by
  have parsed := pointers_correspond.1 ["~01", "", "a/b"] (by simp) (by simp)
  have path : ["~01", "", "a/b"].foldl pushPointerSegment "" = "/~001//a~1b" := by decide
  refine ⟨parsed, ?_⟩
  rw [path] at parsed
  exact pointers_correspond.2.1 _ _ parsed

/-! ## The contested locations -/

def Location.segment : Location → String
  | .key name => name
  | .index position => toString position

/-- What one location adds: itself if it holds rivals, and what is contested below the winner. -/
def contestedAt (location : Location) (rivals : List Item) (below : List (List Location × ℕ)) :
    List (List Location × ℕ) :=
  (match rivals with
  | [] => []
  | _ :: _ => [([location], 1 + rivals.length)]) ++
    below.map fun entry => (location :: entry.1, entry.2)

namespace Item

/-- What competes at the end of a way through winners. -/
def slotAt (item : Item) : List Location → Option (Item × List Item)
  | [] => none
  | [location] => item.slot location
  | location :: way => (item.child location).bind fun child => child.slotAt way

mutual

/-- The locations that are reached through winners and hold rivals, with the number of the
values that compete. -/
def contested : Item → List (List Location × ℕ)
  | .map entries => contestedEntries entries
  | .list slots => contestedSlots 0 slots
  | .text _ | .scalar _ => []

def contestedEntries : List (String × Item × List Item) → List (List Location × ℕ)
  | [] => []
  | (key, winner, rivals) :: entries =>
    contestedAt (.key key) rivals winner.contested ++ contestedEntries entries

def contestedSlots (start : ℕ) : List (Item × List Item) → List (List Location × ℕ)
  | [] => []
  | (winner, rivals) :: slots =>
    contestedAt (.index start) rivals winner.contested ++ contestedSlots (start + 1) slots

end

end Item

section Contested

variable {location : Location} {rivals : List Item} {below : List (List Location × ℕ)}
  {way : List Location} {count : ℕ} {item : Item}

theorem mem_contestedAt : (way, count) ∈ contestedAt location rivals below ↔
    (way = [location] ∧ rivals ≠ [] ∧ count = 1 + rivals.length) ∨
      ∃ rest, way = location :: rest ∧ (rest, count) ∈ below := by
  unfold contestedAt
  rw [List.mem_append]
  apply or_congr
  · cases rivals <;> simp
  · rw [List.mem_map]
    constructor
    · intro found
      rcases found with ⟨entry, member, same⟩
      rw [Prod.mk.injEq] at same
      exact ⟨entry.1, same.1.symm, same.2 ▸ member⟩
    · intro found
      rcases found with ⟨rest, same, member⟩
      exact ⟨(rest, count), member, by rw [same]⟩

theorem mem_contestedEntries {entries : List (String × Item × List Item)} :
    (way, count) ∈ Item.contestedEntries entries ↔
      ∃ entry ∈ entries,
        (way, count) ∈ contestedAt (.key entry.1) entry.2.2 entry.2.1.contested := by
  induction entries with
  | nil => simp [Item.contestedEntries]
  | cons entry entries ih =>
      rw [Item.contestedEntries, List.mem_append, ih, List.exists_mem_cons_iff]

/-- A place in a list is contested at its own index or below it. -/
theorem mem_contestedSlots {slots : List (Item × List Item)} {start : ℕ} :
    (way, count) ∈ Item.contestedSlots start slots ↔
      ∃ (position : ℕ) (slot : Item × List Item), slots[position]? = some slot ∧
        (way, count) ∈ contestedAt (.index (start + position)) slot.2 slot.1.contested := by
  induction slots generalizing start with
  | nil => simp [Item.contestedSlots]
  | cons slot slots ih =>
      rw [Item.contestedSlots, List.mem_append, ih]
      constructor
      · intro found
        rcases found with here | ⟨position, other, later, member⟩
        · exact ⟨0, slot, rfl, here⟩
        · refine ⟨position + 1, other, later, ?_⟩
          rw [show start + (position + 1) = start + 1 + position by omega]
          exact member
      · intro found
        rcases found with ⟨position, other, here, member⟩
        cases position with
        | zero =>
            rw [List.getElem?_cons_zero, Option.some.injEq] at here
            rw [← here] at member
            exact .inl member
        | succ position =>
            rw [show start + (position + 1) = start + 1 + position by omega] at member
            exact .inr ⟨position, other, here, member⟩

/-- What is contested in an item, by its own locations. -/
theorem mem_contested (distinct : item.Distinct) : (way, count) ∈ item.contested ↔
    ∃ location slot, item.slot location = some slot ∧
      (way, count) ∈ contestedAt location slot.2 slot.1.contested := by
  cases item with
  | map entries =>
      have keys := (Item.distinct_iff.mp distinct).1 entries rfl
      rw [Item.contested, mem_contestedEntries]
      constructor
      · intro found
        rcases found with ⟨entry, member, inside⟩
        exact ⟨.key entry.1, entry.2, (Association.lookup_eq_some_iff_mem keys).mpr member, inside⟩
      · intro found
        rcases found with ⟨location, slot, here, inside⟩
        cases location with
        | key name => exact ⟨(name, slot), Association.mem_of_lookup here, inside⟩
        | index position => simp [Item.slot] at here
  | list slots =>
      rw [Item.contested, mem_contestedSlots]
      constructor
      · intro found
        rcases found with ⟨position, slot, here, inside⟩
        rw [Nat.zero_add] at inside
        exact ⟨.index position, slot, here, inside⟩
      · intro found
        rcases found with ⟨location, slot, here, inside⟩
        cases location with
        | key name => simp [Item.slot] at here
        | index position =>
            refine ⟨position, slot, here, ?_⟩
            rw [Nat.zero_add]
            exact inside
  | _ => simp [Item.contested, Item.slot]

/-- The contested locations are those that hold rivals. -/
theorem mem_contested_iff (distinct : item.Distinct) : (way, count) ∈ item.contested ↔
    ∃ slot, item.slotAt way = some slot ∧ slot.2 ≠ [] ∧ count = 1 + slot.2.length := by
  induction way generalizing item with
  | nil =>
      rw [mem_contested distinct]
      simp [mem_contestedAt, Item.slotAt]
  | cons first rest ih =>
      rw [mem_contested distinct]
      simp only [mem_contestedAt, List.cons.injEq]
      constructor
      · intro found
        rcases found with ⟨location, slot, here, ⟨⟨sameFirst, none⟩, contested⟩ |
          ⟨tail, ⟨sameFirst, sameTail⟩, inside⟩⟩
        · subst sameFirst none
          exact ⟨slot, here, contested⟩
        · subst sameFirst sameTail
          have child : item.child first = some slot.1 := by rw [Item.child, here, Option.map_some]
          have belowDistinct := (Item.distinct_iff.mp distinct).2 first slot.1 child
          rcases (ih belowDistinct).mp inside with ⟨last, reached, contested⟩
          cases rest with
          | nil => simp [Item.slotAt] at reached
          | cons second rest =>
              refine ⟨last, ?_, contested⟩
              rw [Item.slotAt, child]
              · exact reached
              · simp
      · intro found
        rcases found with ⟨slot, reached, contested⟩
        cases rest with
        | nil => exact ⟨first, slot, reached, .inl ⟨⟨rfl, rfl⟩, contested⟩⟩
        | cons second rest =>
            rw [Item.slotAt] at reached
            · rcases Option.bind_eq_some_iff.mp reached with ⟨child, here, reached⟩
              rcases Item.exists_slot_of_child here with ⟨rivals, slotHere⟩
              have belowDistinct := (Item.distinct_iff.mp distinct).2 first child here
              refine ⟨first, (child, rivals), slotHere, .inr ⟨_, ⟨rfl, rfl⟩, ?_⟩⟩
              exact (ih belowDistinct).mpr ⟨slot, reached, contested⟩
            · simp

end Contested

/-! ## What a reader sees -/

section Read

variable {item : Item} {way : List Location}

theorem Item.slotAt_cons {location : Location} {child : Item} {slot : Item × List Item}
    (found : item.child location = some child) (reached : child.slotAt way = some slot) :
    item.slotAt (location :: way) = some slot := by
  cases way with
  | nil => simp [Item.slotAt] at reached
  | cons next way => simpa [Item.slotAt, found] using reached

/-- What is read below a container is read from a winner that is reached through winners. -/
theorem Item.exists_slotAt_of_valueAt (distinct : item.Distinct) (container : item.IsContainer)
    {value : Value} (ok : item.read = .ok value) (below : way ≠ []) {json : Json}
    (present : value.json.valueAt way = some json) :
    ∃ first rest winner rivals part, way = first ++ rest ∧
      item.slotAt first = some (winner, rivals) ∧ winner.read = .ok part ∧
      part.json.valueAt rest = some json ∧ (rest = [] ∨ ¬winner.IsContainer) := by
  induction way generalizing item value with
  | nil => exact absurd rfl below
  | cons location way ih =>
      have related := rel_child_of_read distinct container ok location
      rw [Json.valueAt, Option.bind_eq_some_iff] at present
      rcases present with ⟨under, there, present⟩
      cases found : item.child location with
      | none =>
          rw [found, there] at related
          cases related
      | some child =>
          rw [found, there] at related
          cases related with
          | some holds =>
              rcases holds with ⟨part, readable, same⟩
              rw [same] at present
              rcases Item.exists_slot_of_child found with ⟨rivals, here⟩
              by_cases inner : way ≠ [] ∧ child.IsContainer
              · have childDistinct := (Item.distinct_iff.mp distinct).2 location child found
                rcases ih childDistinct inner.2 readable inner.1 present with
                  ⟨first, rest, winner, others, last, split, reached, further⟩
                refine ⟨location :: first, rest, winner, others, last, ?_, ?_, further⟩
                · rw [split, List.cons_append]
                · exact Item.slotAt_cons found reached
              · refine ⟨[location], way, child, rivals, part, rfl, here, readable, present, ?_⟩
                by_contra neither
                apply inner
                simpa using neither

end Read

/-! ## What the walk collects -/

/-- The conflict that is reported for a contested location below a path. -/
def contestedConflict (path : String) (entry : List Location × ℕ) : DraftConflict where
  path := (entry.1.map Location.segment).foldl pushPointerSegment path
  competingValues := entry.2

theorem replaceChar_of_notMem {character : Char} {text value : List Char}
    (absent : character ∉ value) : replaceChar character text value = value := by
  rw [replaceChar]
  conv_rhs => rw [← List.flatMap_singleton' value]
  apply List.flatMap_congr
  intro other member
  rw [if_neg]
  intro same
  exact absent (same ▸ member)

/-- An index has nothing to escape. -/
theorem pushPointerSegment_index (path : String) (position : ℕ) :
    pushPointerSegment path (toString position) = s!"{path}/{position}" := by
  have digits : ∀ character, character.isDigit = false →
      character ∉ (toString position).toList := by
    intro character notDigit member
    have digit : character.isDigit = true := by
      apply Nat.isDigit_of_mem_toDigits (b := 10) (n := position) (by omega) (by omega)
      simpa [Nat.toString_eq_repr, Nat.repr] using member
    simp [notDigit] at digit
  rw [pushPointerSegment, replaceChar_of_notMem (digits '~' rfl),
    replaceChar_of_notMem (digits '/' rfl), String.ofList_toList]
  rfl

theorem collectAt (path : String) (location : Location) (rivals : List Item)
    (below : List (List Location × ℕ)) :
    conflictAt (pushPointerSegment path location.segment) rivals ++
        below.map (contestedConflict (pushPointerSegment path location.segment)) =
      (contestedAt location rivals below).map (contestedConflict path) := by
  unfold contestedAt
  cases rivals <;> simp [conflictAt, contestedConflict, Function.comp_def]

mutual

theorem collectConflicts_eq (path : String) : (item : Item) →
    item.collectConflicts path = item.contested.map (contestedConflict path)
  | .map entries => by
      rw [Item.collectConflicts, Item.contested, collectEntryConflicts_eq path entries]
  | .list slots => by
      rw [Item.collectConflicts, Item.contested, collectSlotConflicts_eq path 0 slots]
  | .text _ | .scalar _ => rfl

theorem collectEntryConflicts_eq (path : String) : (entries : List (String × Item × List Item)) →
    Item.collectEntryConflicts path entries =
      (Item.contestedEntries entries).map (contestedConflict path)
  | [] => rfl
  | (key, winner, rivals) :: entries => by
      rw [Item.collectEntryConflicts, Item.contestedEntries, List.map_append,
        collectEntryConflicts_eq path entries, collectConflicts_eq _ winner, ← collectAt]
      rfl

theorem collectSlotConflicts_eq (path : String) (start : ℕ) :
    (slots : List (Item × List Item)) → Item.collectSlotConflicts path start slots =
      (Item.contestedSlots start slots).map (contestedConflict path)
  | [] => rfl
  | (winner, rivals) :: slots => by
      rw [Item.collectSlotConflicts, Item.contestedSlots, List.map_append,
        collectSlotConflicts_eq path (start + 1) slots, ← pushPointerSegment_index,
        collectConflicts_eq _ winner, ← collectAt]
      rfl

end

/-! ## Each location once -/

/-- Every way of a list starts at the location. -/
theorem ways_contestedAt {location : Location} {rivals : List Item}
    {below : List (List Location × ℕ)} {way : List Location}
    (member : way ∈ (contestedAt location rivals below).map Prod.fst) :
    ∃ rest, way = location :: rest := by
  rcases List.mem_map.mp member with ⟨entry, inside, same⟩
  rcases mem_contestedAt.mp inside with ⟨here, _⟩ | ⟨rest, here, _⟩
  · exact ⟨[], same ▸ here⟩
  · exact ⟨rest, same ▸ here⟩

theorem nil_notMem_contestedEntries (entries : List (String × Item × List Item)) :
    [] ∉ (Item.contestedEntries entries).map Prod.fst := by
  intro member
  rcases List.mem_map.mp member with ⟨found, inside, same⟩
  rcases mem_contestedEntries.mp inside with ⟨entry, _, here⟩
  rcases ways_contestedAt (List.mem_map_of_mem here) with ⟨rest, way⟩
  simp [same] at way

theorem nil_notMem_contestedSlots (start : ℕ) (slots : List (Item × List Item)) :
    [] ∉ (Item.contestedSlots start slots).map Prod.fst := by
  intro member
  rcases List.mem_map.mp member with ⟨found, inside, same⟩
  rcases mem_contestedSlots.mp inside with ⟨position, slot, _, here⟩
  rcases ways_contestedAt (List.mem_map_of_mem here) with ⟨rest, way⟩
  simp [same] at way

theorem nil_notMem_contested (item : Item) : [] ∉ item.contested.map Prod.fst := by
  cases item with
  | map entries => exact nil_notMem_contestedEntries entries
  | list slots => exact nil_notMem_contestedSlots 0 slots
  | _ => simp [Item.contested]

/-- A place is reported once, whatever is contested below it. -/
theorem nodup_contestedAt {location : Location} {rivals : List Item} {winner : Item}
    (below : (winner.contested.map Prod.fst).Nodup) :
    ((contestedAt location rivals winner.contested).map Prod.fst).Nodup := by
  have inner : ((winner.contested.map Prod.fst).map (List.cons location)).Nodup :=
    below.map List.cons_injective
  unfold contestedAt
  cases rivals with
  | nil => simpa [Function.comp_def] using inner
  | cons rival rivals =>
      have apart := nil_notMem_contested winner
      rw [List.map_append, List.map_map]
      simp only [List.map_cons, List.map_nil, List.cons_append, List.nil_append, List.nodup_cons]
      constructor
      · intro member
        rcases List.mem_map.mp member with ⟨entry, inside, same⟩
        apply apart
        rw [List.mem_map]
        exact ⟨entry, inside, by simpa using same⟩
      · simpa [Function.comp_def] using inner

theorem Item.Distinct.child {item : Item} (distinct : item.Distinct) {location : Location}
    {slot : Item × List Item} (found : item.slot location = some slot) : slot.1.Distinct :=
  (distinct_iff.mp distinct).2 location slot.1 (by rw [Item.child, found, Option.map_some])

mutual

theorem nodup_contested : (item : Item) → item.Distinct → (item.contested.map Prod.fst).Nodup
  | .map entries, distinct => by
      have keys := (Item.distinct_iff.mp distinct).1 entries rfl
      apply nodup_contestedEntries entries keys
      intro entry member
      have found : (Item.map entries).slot (.key entry.1) = some entry.2 :=
        (Association.lookup_eq_some_iff_mem keys).mpr member
      exact distinct.child found
  | .list slots, distinct => by
      apply nodup_contestedSlots 0 slots
      intro slot member
      rcases List.mem_iff_getElem?.mp member with ⟨position, here⟩
      have found : (Item.list slots).slot (.index position) = some slot := here
      exact distinct.child found
  | .text _, _ | .scalar _, _ => .nil

theorem nodup_contestedEntries : (entries : List (String × Item × List Item)) →
    (entries.map Prod.fst).Nodup → (∀ entry ∈ entries, entry.2.1.Distinct) →
    ((Item.contestedEntries entries).map Prod.fst).Nodup
  | [], _, _ => .nil
  | (key, winner, rivals) :: entries, keys, distinct => by
      rw [List.map_cons, List.nodup_cons] at keys
      rw [Item.contestedEntries, List.map_append]
      apply List.Nodup.append
      · apply nodup_contestedAt
        exact nodup_contested winner (distinct _ List.mem_cons_self)
      · apply nodup_contestedEntries entries keys.2
        intro entry member
        exact distinct entry (List.mem_cons_of_mem _ member)
      · intro way here later
        rcases ways_contestedAt here with ⟨rest, way⟩
        rcases List.mem_map.mp later with ⟨found, inside, same⟩
        rcases mem_contestedEntries.mp inside with ⟨entry, member, further⟩
        rcases ways_contestedAt (List.mem_map_of_mem further) with ⟨tail, other⟩
        rw [same, way, List.cons.injEq, Location.key.injEq] at other
        apply keys.1
        rw [other.1]
        exact List.mem_map.mpr ⟨entry, member, rfl⟩

theorem nodup_contestedSlots (start : ℕ) : (slots : List (Item × List Item)) →
    (∀ slot ∈ slots, slot.1.Distinct) →
    ((Item.contestedSlots start slots).map Prod.fst).Nodup
  | [], _ => .nil
  | (winner, rivals) :: slots, distinct => by
      rw [Item.contestedSlots, List.map_append]
      apply List.Nodup.append
      · apply nodup_contestedAt
        exact nodup_contested winner (distinct _ List.mem_cons_self)
      · apply nodup_contestedSlots (start + 1) slots
        intro slot member
        exact distinct slot (List.mem_cons_of_mem _ member)
      · intro way here later
        rcases ways_contestedAt here with ⟨rest, way⟩
        rcases List.mem_map.mp later with ⟨found, inside, same⟩
        rcases mem_contestedSlots.mp inside with ⟨position, slot, _, further⟩
        rcases ways_contestedAt (List.mem_map_of_mem further) with ⟨tail, other⟩
        rw [same, way, List.cons.injEq, Location.index.injEq] at other
        omega

end

/-! ## The gate -/

namespace AutomergeDraft

theorem conflicts_eq (draft : AutomergeDraft) :
    draft.conflicts = (Item.map draft.root).contested.map (contestedConflict "") :=
  collectConflicts_eq "" _

/-- A draft that is promoted has no conflict. -/
theorem conflicts_of_promote {crates : Crates} {draft : AutomergeDraft} {promoted : PromotedDraft}
    (ok : draft.promote crates = .ok promoted) : draft.conflicts = [] := by
  rw [promote, Checked.bind_eq_ok_iff] at ok
  rcases ok with ⟨_, free, _⟩
  exact Checked.ensure_eq_ok_iff.mp free

theorem uncontested_of_conflicts {draft : AutomergeDraft} (free : draft.conflicts = [])
    {way : List Location} {slot : Item × List Item}
    (reached : (Item.map draft.root).slotAt way = some slot) : slot.2 = [] := by
  by_contra rivals
  have member := (mem_contested_iff draft.distinct).mpr ⟨slot, reached, rivals, rfl⟩
  rw [conflicts_eq, List.map_eq_nil_iff] at free
  simp [free] at member

/-- The path of a conflict decodes to the segments of its location. -/
theorem parsePointer_contestedConflict {draft : AutomergeDraft} {entry : List Location × ℕ}
    (member : entry ∈ (Item.map draft.root).contested) {slot : Item × List Item}
    (reached : (Item.map draft.root).slotAt entry.1 = some slot) (named : entry.1 ≠ [.key ""]) :
    parsePointer (contestedConflict "" entry).path = .ok (entry.1.map Location.segment) := by
  apply parsePointer_pointer
  · intro empty
    rw [List.map_eq_nil_iff] at empty
    apply nil_notMem_contested (Item.map draft.root)
    exact List.mem_map.mpr ⟨entry, member, empty⟩
  · intro root
    rcases List.map_eq_singleton_iff.mp root with ⟨location, same, blank⟩
    apply named
    rw [same]
    cases location with
    | key name => rw [show name = "" from blank]
    | index position =>
        rw [same] at reached
        simp [Item.slotAt, Item.slot] at reached

/-- The conflicts are the locations that are reached through winners and hold rivals. A
promoted draft has none, and is read from uncontested winners only. -/
theorem conflicts_spec (draft : AutomergeDraft) :
    (∃ ways : List (List Location), ways.Nodup ∧
      (∀ way, way ∈ ways ↔
        ∃ slot, (Item.map draft.root).slotAt way = some slot ∧ slot.2 ≠ []) ∧
      List.Forall₂ (fun way conflict =>
        (∀ slot, (Item.map draft.root).slotAt way = some slot →
          conflict.competingValues = (slot.1 :: slot.2).length) ∧
        (way ≠ [.key ""] → parsePointer conflict.path = .ok (way.map Location.segment)))
        ways draft.conflicts) ∧
    ∀ crates promoted, draft.promote crates = .ok promoted →
      (∀ way slot, (Item.map draft.root).slotAt way = some slot → slot.2 = []) ∧
      ∀ value, draft.materialize = .ok value →
        ∀ way json, way ≠ [] → value.json.valueAt way = some json →
          ∃ first rest winner part, way = first ++ rest ∧
            (Item.map draft.root).slotAt first = some (winner, []) ∧ winner.read = .ok part ∧
            part.json.valueAt rest = some json ∧ (rest = [] ∨ ¬winner.IsContainer) := by
  constructor
  · refine ⟨(Item.map draft.root).contested.map Prod.fst, nodup_contested _ draft.distinct, ?_, ?_⟩
    · intro way
      rw [List.mem_map]
      constructor
      · intro found
        rcases found with ⟨entry, member, same⟩
        subst same
        rcases (mem_contested_iff draft.distinct).mp member with ⟨slot, reached, rivals, _⟩
        exact ⟨slot, reached, rivals⟩
      · intro found
        rcases found with ⟨slot, reached, rivals⟩
        exact ⟨_, (mem_contested_iff draft.distinct).mpr ⟨slot, reached, rivals, rfl⟩, rfl⟩
    · rw [conflicts_eq, List.forall₂_map_left_iff, List.forall₂_map_right_iff]
      apply List.forall₂_same.mpr
      intro entry member
      rcases (mem_contested_iff draft.distinct).mp member with ⟨slot, reached, _, count⟩
      constructor
      · intro other here
        rw [reached, Option.some.injEq] at here
        rw [← here, contestedConflict, count, List.length_cons, Nat.add_comm]
      · intro named
        exact parsePointer_contestedConflict member reached named
  · intro crates promoted ok
    have free := conflicts_of_promote ok
    refine ⟨fun way slot => uncontested_of_conflicts free, ?_⟩
    intro value readable way json below present
    rcases Item.exists_slotAt_of_valueAt draft.distinct trivial (materialize_eq_ok_iff.mp readable)
      below present with ⟨first, rest, winner, rivals, part, split, reached, further⟩
    have none : rivals = [] := uncontested_of_conflicts free reached
    rw [none] at reached
    exact ⟨first, rest, winner, part, split, reached, further⟩

theorem distinct_singleton {name : String} {winner : Item} (distinct : winner.Distinct)
    (rivals : List Item) : (Item.map [(name, winner, rivals)]).Distinct := by
  rw [Item.distinct_iff]
  refine ⟨?_, ?_⟩
  · intro entries same
    rw [← Item.map.inj same]
    simp
  · intro location child found
    cases location with
    | key other =>
        rw [Item.child, Item.slot, List.lookup_cons] at found
        cases same : other == name with
        | true =>
            rw [same, Option.map_some, Option.some.injEq] at found
            rw [← found]
            exact distinct
        | false => simp [same] at found
    | index index => simp [Item.child, Item.slot] at found

/-- A draft of which two authors changed the title. -/
def retitledTwice : AutomergeDraft where
  heads := [newHead]
  root := [("title", .scalar (.str "draft"), [.scalar (.str "final")])]
  distinct := distinct_singleton (Item.distinct_scalar _) _

theorem conflicts_spec_retitledTwice (crates : Crates) :
    ∀ promoted, retitledTwice.promote crates ≠ .ok promoted := by
  intro promoted ok
  have free := ((conflicts_spec retitledTwice).2 crates promoted ok).1 [.key "title"]
    (.scalar (.str "draft"), [.scalar (.str "final")]) rfl
  simp at free

end AutomergeDraft

end Colloq
