import Mathlib
import Colloq.Library.Loop

/-!
# Searching a finite graph from a queue

The graph is a map from node ids to node values, each of which lists its
successors; a successor need not be a node of the graph. The search keeps a
queue and a set of visited ids, and notes whether it met a goal. It terminates on
every graph, it visits exactly the ids reachable from the root, and it meets a
goal exactly when one is reachable.
-/

namespace GraphSearch

universe u v

variable {α : Type u} {β : Type v} {cmp : α → α → Ordering} [Std.TransCmp cmp]
  (graph : Std.ExtTreeMap α β cmp) (successors : β → List α) (goal : β → Bool)

structure Search (α : Type u) (cmp : α → α → Ordering) where
  queue : List α
  visited : Std.ExtTreeSet α cmp
  found : Bool

/-- Take the front of the queue; skip it if it was visited or is not a node. -/
def step (search : Search α cmp) : Option (Search α cmp) :=
  match search.queue with
  | [] => none
  | id :: queue =>
    if id ∈ search.visited then
      some { search with queue }
    else
      let visited := search.visited.insert id
      match graph[id]? with
      | none => some { search with queue, visited }
      | some node => some
          { queue := queue ++ successors node, visited, found := search.found || goal node }

def start (root : α) : Search α cmp := { queue := [root], visited := ∅, found := false }

/-- The successors an entry can still add to the queue. -/
def weight (visited : Std.ExtTreeSet α cmp) (entry : α × β) : ℕ :=
  if entry.1 ∈ visited then 0 else (successors entry.2).length

def pending (visited : Std.ExtTreeSet α cmp) : ℕ :=
  (graph.toList.map (weight successors visited)).sum

def variant (search : Search α cmp) : ℕ :=
  search.queue.length + pending graph successors search.visited

def run (root : α) : Search α cmp :=
  Loop.run (step graph successors goal) (variant graph successors) (start root)

/-- `target` is a successor of the node with id `source`. -/
def Edge (source target : α) : Prop :=
  ∃ node, graph[source]? = some node ∧ target ∈ successors node

def Reachable (root target : α) : Prop :=
  Relation.ReflTransGen (Edge graph successors) root target

variable {graph successors goal}

theorem weight_insert_le (visited : Std.ExtTreeSet α cmp) (id : α) (entry : α × β) :
    weight successors (visited.insert id) entry ≤ weight successors visited entry := by
  by_cases present : entry.1 ∈ visited
  · simp [weight, present]
  · by_cases inserted : entry.1 ∈ visited.insert id <;> simp [weight, present, inserted]

theorem sum_insert_le (entries : List (α × β)) (visited : Std.ExtTreeSet α cmp) (id : α) :
    (entries.map (weight successors (visited.insert id))).sum ≤
      (entries.map (weight successors visited)).sum :=
  List.sum_le_sum fun entry _ => weight_insert_le visited id entry

/-- Visiting a node takes exactly its own successors off the pending ones. -/
theorem sum_insert_add {entries : List (α × β)} {visited : Std.ExtTreeSet α cmp} {id : α}
    {node : β} (fresh : id ∉ visited) (present : (id, node) ∈ entries) :
    (entries.map (weight successors (visited.insert id))).sum + (successors node).length ≤
      (entries.map (weight successors visited)).sum := by
  induction entries with
  | nil => simp at present
  | cons entry entries ih =>
      simp only [List.map_cons, List.sum_cons]
      rcases List.mem_cons.mp present with rfl | later
      · have rest : (entries.map (weight successors (visited.insert id))).sum ≤
            (entries.map (weight successors visited)).sum := sum_insert_le entries visited id
        have before : weight successors visited (id, node) = (successors node).length :=
          if_neg fresh
        have after : weight successors (visited.insert id) (id, node) = 0 :=
          if_pos Std.ExtTreeSet.mem_insert_self
        omega
      · have rest := ih later
        have head : weight successors (visited.insert id) entry ≤ weight successors visited entry :=
          weight_insert_le visited id entry
        omega

/-- What one iteration can do. -/
theorem step_cases {search next : Search α cmp}
    (stepped : step graph successors goal search = some next) :
    ∃ id queue, search.queue = id :: queue ∧
      ((id ∈ search.visited ∧ next = { search with queue }) ∨
        (id ∉ search.visited ∧ graph[id]? = none ∧
          next = { search with queue, visited := search.visited.insert id }) ∨
        ∃ node, id ∉ search.visited ∧ graph[id]? = some node ∧
          next = { queue := queue ++ successors node, visited := search.visited.insert id,
                   found := search.found || goal node }) := by
  rcases front : search.queue with _ | ⟨id, queue⟩
  · simp [step, front] at stepped
  · refine ⟨id, queue, rfl, ?_⟩
    by_cases seen : id ∈ search.visited
    · exact Or.inl ⟨seen, by simpa [step, front, seen] using stepped.symm⟩
    · rcases found : graph[id]? with _ | node
      · exact Or.inr (Or.inl ⟨seen, rfl,
          by simpa [step, front, seen, found] using stepped.symm⟩)
      · exact Or.inr (Or.inr ⟨node, seen, rfl,
          by simpa [step, front, seen, found] using stepped.symm⟩)

/-- The loop invariant: everything queued or visited is reachable, every edge out of a visited
id leads into the visited set or the queue, and the goal flag is about the visited ids. -/
structure Invariant (graph : Std.ExtTreeMap α β cmp) (successors : β → List α)
    (goal : β → Bool) (root : α) (search : Search α cmp) : Prop where
  rooted : root ∈ search.visited ∨ root ∈ search.queue
  queueReachable : ∀ id ∈ search.queue, Reachable graph successors root id
  visitedReachable : ∀ id ∈ search.visited, Reachable graph successors root id
  closed : ∀ source ∈ search.visited, ∀ target, Edge graph successors source target →
    target ∈ search.visited ∨ target ∈ search.queue
  found_iff : search.found = true ↔
    ∃ id ∈ search.visited, ∃ node, graph[id]? = some node ∧ goal node = true

theorem invariant_start (root : α) :
    Invariant graph successors goal root (start root : Search α cmp) where
  rooted := Or.inr (by simp [start])
  queueReachable := by
    intro id queued
    obtain rfl : id = root := by simpa [start] using queued
    exact .refl
  visitedReachable := by simp [start]
  closed := by simp [start]
  found_iff := by simp [start]

variable [Std.LawfulEqCmp cmp]

theorem pending_insert_add {visited : Std.ExtTreeSet α cmp} {id : α} {node : β}
    (fresh : id ∉ visited) (present : graph[id]? = some node) :
    pending graph successors (visited.insert id) + (successors node).length ≤
      pending graph successors visited :=
  sum_insert_add fresh (Std.ExtTreeMap.mem_toList_iff_getElem?_eq_some.mpr present)

theorem decreases : Loop.Decreases (step graph successors goal) (variant graph successors) := by
  intro search next stepped
  rcases step_cases stepped with
    ⟨id, queue, front, ⟨_, rfl⟩ | ⟨_, _, rfl⟩ | ⟨node, fresh, found, rfl⟩⟩
  · simp [variant, front]
  · have : pending graph successors (search.visited.insert id) ≤
        pending graph successors search.visited := sum_insert_le graph.toList search.visited id
    simp only [variant, front, List.length_cons]
    omega
  · have : pending graph successors (search.visited.insert id) + (successors node).length ≤
        pending graph successors search.visited := pending_insert_add fresh found
    simp only [variant, front, List.length_cons, List.length_append]
    omega

/-- The search terminates on every graph. -/
theorem run_mem_eval (root : α) :
    run graph successors goal root ∈
      StateTransition.eval (step graph successors goal) (start root) :=
  Loop.run_mem_eval decreases _

theorem queue_run (root : α) : (run graph successors goal root).queue = [] := by
  have exited : step graph successors goal (run graph successors goal root) = none :=
    Loop.body_run decreases (start root)
  rcases front : (run graph successors goal root).queue with _ | ⟨id, queue⟩
  · rfl
  · simp only [step, front] at exited
    split at exited
    · simp at exited
    · split at exited <;> simp at exited

theorem mem_insert_iff {visited : Std.ExtTreeSet α cmp} {id other : α} :
    other ∈ visited.insert id ↔ other = id ∨ other ∈ visited := by
  rw [Std.ExtTreeSet.mem_insert, Std.LawfulEqCmp.compare_eq_iff_eq, eq_comm]

/-- What has been visited stays closed under successors, but for the queue. -/
theorem invariant_step {root : α} {search next : Search α cmp}
    (invariant : Invariant graph successors goal root search)
    (stepped : step graph successors goal search = some next) :
    Invariant graph successors goal root next := by
  rcases step_cases stepped with
    ⟨id, queue, front, ⟨seen, rfl⟩ | ⟨fresh, missing, rfl⟩ | ⟨node, fresh, found, rfl⟩⟩
  all_goals
    have idReachable := invariant.queueReachable id (by simp [front])
    have rooted := invariant.rooted
    have queueReachable := invariant.queueReachable
    have closed := invariant.closed
    have found_iff := invariant.found_iff
    simp only [front, List.mem_cons] at rooted queueReachable closed
  · exact {
      rooted := by rcases rooted with visited | rfl | queued <;> simp [*]
      queueReachable := fun other queued => queueReachable other (Or.inr queued)
      visitedReachable := invariant.visitedReachable
      closed := by
        intro source visited target edge
        rcases closed source visited target edge with visited | rfl | queued <;> simp [*]
      found_iff := found_iff }
  · exact {
      rooted := by
        simp only [mem_insert_iff]
        tauto
      queueReachable := fun other queued => queueReachable other (Or.inr queued)
      visitedReachable := by
        intro other visited
        rcases mem_insert_iff.mp visited with rfl | visited
        · exact idReachable
        · exact invariant.visitedReachable other visited
      closed := by
        intro source visited target edge
        simp only [mem_insert_iff] at visited ⊢
        rcases visited with rfl | visited
        · rcases edge with ⟨node, found, _⟩
          simp [missing] at found
        · have := closed source visited target edge
          tauto
      found_iff := by
        rw [found_iff]
        constructor
        · rintro ⟨other, visited, node, found, isGoal⟩
          exact ⟨other, mem_insert_iff.mpr (Or.inr visited), node, found, isGoal⟩
        · rintro ⟨other, visited, node, found, isGoal⟩
          rcases mem_insert_iff.mp visited with rfl | visited
          · simp [missing] at found
          · exact ⟨other, visited, node, found, isGoal⟩ }
  · exact {
      rooted := by
        simp only [mem_insert_iff, List.mem_append]
        tauto
      queueReachable := by
        intro other queued
        rcases List.mem_append.mp queued with queued | successor
        · exact queueReachable other (Or.inr queued)
        · exact idReachable.tail ⟨node, found, successor⟩
      visitedReachable := by
        intro other visited
        rcases mem_insert_iff.mp visited with rfl | visited
        · exact idReachable
        · exact invariant.visitedReachable other visited
      closed := by
        intro source visited target edge
        simp only [mem_insert_iff, List.mem_append] at visited ⊢
        rcases visited with rfl | visited
        · rcases edge with ⟨node', found', successor⟩
          obtain rfl : node = node' := by simpa [found] using found'
          exact Or.inr (Or.inr successor)
        · have := closed source visited target edge
          tauto
      found_iff := by
        rw [Bool.or_eq_true, found_iff]
        constructor
        · rintro (⟨other, visited, node', found', isGoal⟩ | isGoal)
          · exact ⟨other, mem_insert_iff.mpr (Or.inr visited), node', found', isGoal⟩
          · exact ⟨id, mem_insert_iff.mpr (Or.inl rfl), node, found, isGoal⟩
        · rintro ⟨other, visited, node', found', isGoal⟩
          rcases mem_insert_iff.mp visited with rfl | visited
          · obtain rfl : node = node' := by simpa [found] using found'
            exact Or.inr isGoal
          · exact Or.inl ⟨other, visited, node', found', isGoal⟩ }

theorem invariant_run (root : α) :
    Invariant graph successors goal root (run graph successors goal root) :=
  Loop.run_invariant (fun _ _ => invariant_step) (invariant_start root)

/-- The visited ids are exactly the reachable ones. -/
theorem mem_visited_run {root id : α} :
    id ∈ (run graph successors goal root).visited ↔ Reachable graph successors root id := by
  have invariant : Invariant graph successors goal root (run graph successors goal root) :=
    invariant_run root
  constructor
  · exact invariant.visitedReachable id
  · intro reachable
    induction reachable with
    | refl => simpa [queue_run] using invariant.rooted
    | tail _ edge ih => simpa [queue_run] using invariant.closed _ ih _ edge

/-- The search reports a goal exactly when a goal node is reachable. -/
theorem found_run {root : α} :
    (run graph successors goal root).found = true ↔
      ∃ id node, Reachable graph successors root id ∧ graph[id]? = some node ∧
        goal node = true := by
  rw [(invariant_run root).found_iff]
  constructor
  · rintro ⟨id, visited, node, found, isGoal⟩
    exact ⟨id, node, mem_visited_run.mp visited, found, isGoal⟩
  · rintro ⟨id, node, reachable, found, isGoal⟩
    exact ⟨id, mem_visited_run.mpr reachable, node, found, isGoal⟩

end GraphSearch
