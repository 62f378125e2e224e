import Mathlib.Data.List.Nodup
import Std.Data.ExtTreeMap

/-!
# Association lists

Looking up keys in lists of pairs, and in sorted maps that are built from such lists.
-/

namespace Association

variable {κ β γ : Type}

section Lookup

variable [BEq κ] [LawfulBEq κ] {entries : List (κ × β)} {key : κ} {value : β}

theorem mem_of_lookup (found : entries.lookup key = some value) : (key, value) ∈ entries := by
  rcases List.lookup_eq_some_iff.mp found with ⟨before, after, same, _⟩
  simp [same]

/-- Among distinct keys, the entry of a key is the one that is found. -/
theorem lookup_eq_some_iff_mem (distinct : (entries.map Prod.fst).Nodup) :
    entries.lookup key = some value ↔ (key, value) ∈ entries := by
  constructor
  · exact mem_of_lookup
  · intro member
    rcases List.append_of_mem member with ⟨before, after, same⟩
    subst same
    apply List.lookup_eq_some_iff.mpr
    refine ⟨before, after, rfl, ?_⟩
    intro entry earlier
    rw [List.map_append, List.map_cons] at distinct
    have apart := List.disjoint_of_nodup_append distinct (List.mem_map_of_mem earlier)
    have different : key ≠ entry.1 := by
      intro same
      exact apart (by simp [same])
    simpa using different

omit [LawfulBEq κ] in
@[simp]
theorem lookup_map (convert : β → γ) (entries : List (κ × β)) (key : κ) :
    (entries.map fun entry => (entry.1, convert entry.2)).lookup key =
      (entries.lookup key).map convert := by
  induction entries with
  | nil => rfl
  | cons entry entries ih =>
      rw [List.map_cons, List.lookup_cons, List.lookup_cons, ih]
      cases key == entry.1 <;> rfl

theorem lookup_filter (keep : κ → Bool) (entries : List (κ × β)) (key : κ) :
    (entries.filter fun entry => keep entry.1).lookup key =
      if keep key then entries.lookup key else none := by
  induction entries with
  | nil => simp
  | cons entry entries ih =>
      rcases entry with ⟨name, value⟩
      rw [List.filter_cons, List.lookup_cons]
      cases same : key == name with
      | true =>
          rw [eq_of_beq same] at ih ⊢
          by_cases kept : keep name = true <;> simp [kept, ih]
      | false =>
          by_cases kept : keep name = true <;> simp [kept, ih, List.lookup_cons, same]

end Lookup

section Assign

variable [DecidableEq κ]

/-- The value of a key is replaced where it stands, or added at the end. -/
def assign (key : κ) (value : β) : List (κ × β) → List (κ × β)
  | [] => [(key, value)]
  | entry :: entries =>
    if entry.1 = key then (key, value) :: entries else entry :: assign key value entries

/-- An assignment changes the value of its key only. -/
@[simp]
theorem lookup_assign (key other : κ) (value : β) (entries : List (κ × β)) :
    (assign key value entries).lookup other =
      if other = key then some value else entries.lookup other := by
  induction entries with
  | nil =>
      rw [assign, List.lookup_cons]
      by_cases same : other = key
      · simp [same]
      · simp [beq_eq_false_iff_ne.mpr same, same]
  | cons entry entries ih =>
      rcases entry with ⟨name, old⟩
      rw [assign]
      split_ifs with same found found
      · subst same found
        exact List.lookup_cons_self
      · subst same
        rw [List.lookup_cons, List.lookup_cons, beq_eq_false_iff_ne.mpr found]
      · subst found
        rw [List.lookup_cons, beq_eq_false_iff_ne.mpr (Ne.symm same), ih, if_pos rfl]
      · rw [List.lookup_cons, List.lookup_cons, ih, if_neg found]

theorem keys_assign (key : κ) (value : β) (entries : List (κ × β)) :
    (assign key value entries).map Prod.fst =
      if key ∈ entries.map Prod.fst then entries.map Prod.fst
      else entries.map Prod.fst ++ [key] := by
  induction entries with
  | nil => rfl
  | cons entry entries ih =>
      rw [assign]
      split_ifs with same found found
      · simp [same]
      · simp [same] at found
      · rw [List.map_cons, List.map_cons, ih, if_pos]
        simpa [Ne.symm same] using found
      · rw [List.map_cons, List.map_cons, ih, if_neg, List.cons_append]
        simp only [List.map_cons, List.mem_cons, not_or] at found
        exact found.2

theorem nodup_keys_assign {entries : List (κ × β)} (key : κ) (value : β)
    (distinct : (entries.map Prod.fst).Nodup) :
    ((assign key value entries).map Prod.fst).Nodup := by
  rw [keys_assign]
  split_ifs with present
  · exact distinct
  · exact List.nodup_append.mpr ⟨distinct, List.nodup_singleton key, by
      intro name member other same equal
      rw [List.mem_singleton] at same
      exact present (same ▸ equal ▸ member)⟩

end Assign

section Pointwise

variable {related : β → γ → Prop} {left : List (κ × β)} {right : List (κ × γ)}

/-- Entry for entry the same key and related values. -/
abbrev Pointwise (related : β → γ → Prop) : List (κ × β) → List (κ × γ) → Prop :=
  List.Forall₂ fun left right => right.1 = left.1 ∧ related left.2 right.2

theorem Pointwise.keys (all : Pointwise related left right) :
    right.map Prod.fst = left.map Prod.fst := by
  induction all with
  | nil => rfl
  | cons both _ ih => rw [List.map_cons, List.map_cons, both.1, ih]

theorem Pointwise.exists_mem (all : Pointwise related left right) {key : κ} {value : β}
    (member : (key, value) ∈ left) : ∃ other, (key, other) ∈ right ∧ related value other := by
  induction all with
  | nil => simp at member
  | @cons entry other entries others both _ ih =>
      rcases List.mem_cons.mp member with same | later
      · refine ⟨other.2, ?_, ?_⟩
        · have here : key = other.1 := by rw [both.1, ← same]
          rw [here]
          exact List.mem_cons_self
        · have here : value = entry.2 := by rw [← same]
          rw [here]
          exact both.2
      · rcases ih later with ⟨value, inside, holds⟩
        exact ⟨value, List.mem_cons_of_mem _ inside, holds⟩

theorem Pointwise.lookup [BEq κ] (all : Pointwise related left right) (key : κ) :
    Option.Rel related (left.lookup key) (right.lookup key) := by
  induction all with
  | nil => exact .none
  | @cons entry other entries others both _ ih =>
      rcases entry with ⟨name, value⟩
      rcases other with ⟨otherName, otherValue⟩
      have same : otherName = name := both.1
      subst same
      rw [List.lookup_cons, List.lookup_cons]
      cases key == otherName with
      | true => exact .some both.2
      | false => exact ih

end Pointwise

section Maps

variable [Ord κ] [Std.TransOrd κ] {entries : List (κ × β)}

theorem nodup_keys (map : Std.ExtTreeMap κ β) : (map.toList.map Prod.fst).Nodup := by
  rw [Std.ExtTreeMap.map_fst_toList_eq_keys]
  exact map.nodup_keys

variable [Std.LawfulEqOrd κ] [BEq κ] [LawfulBEq κ]

@[simp]
theorem lookup_toList (map : Std.ExtTreeMap κ β) (key : κ) :
    map.toList.lookup key = map[key]? := by
  apply Option.ext
  intro value
  rw [lookup_eq_some_iff_mem (nodup_keys map), Std.ExtTreeMap.mem_toList_iff_getElem?_eq_some]

/-- A map that is built from distinct keys has the entries of the list. -/
theorem getElem?_ofList (distinct : (entries.map Prod.fst).Nodup) (key : κ) :
    (Std.ExtTreeMap.ofList entries : Std.ExtTreeMap κ β)[key]? = entries.lookup key := by
  have apart : entries.Pairwise fun left right => ¬compare left.1 right.1 = .eq := by
    apply (List.pairwise_map.mp distinct).imp
    intro left right different same
    exact different (Std.LawfulEqOrd.eq_of_compare same)
  cases found : entries.lookup key with
  | some value =>
      exact Std.ExtTreeMap.getElem?_ofList_of_mem Std.ReflCmp.compare_self apart
        (mem_of_lookup found)
  | none =>
      apply Std.ExtTreeMap.getElem?_ofList_of_contains_eq_false
      rw [List.lookup_eq_none_iff] at found
      rw [← Bool.not_eq_true, List.contains_iff_mem, List.mem_map]
      intro member
      rcases member with ⟨entry, present, same⟩
      have different := found entry present
      simp [same] at different

end Maps

end Association
