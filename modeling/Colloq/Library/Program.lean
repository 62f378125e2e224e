import Mathlib.Data.DFinsupp.WellFounded
import Mathlib.Logic.Relation

/-!
# Programs that call on an environment

A `Program` is a tree of calls: each call names an operation, and the answer of
the environment decides how the program goes on. A program follows a discipline
if every operation that it calls is one that its ghost state allows. Several
programs may share one environment; what their disciplines keep invariant then
holds in every interleaving, and if their calls commute, every interleaving has
the same outcome.
-/

/-- A finite tree of calls with the answers as branches. -/
inductive Program (Op : Type) (Answer : Op → Type) (α : Type) where
  | done (value : α)
  | call (op : Op) (next : Answer op → Program Op Answer α)

namespace Program

variable {Op : Type} {Answer : Op → Type} {α β : Type}

/-- The tree of the second program grows at the leaves of the first. -/
def andThen : Program Op Answer α → (α → Program Op Answer β) → Program Op Answer β
  | .done value, rest => rest value
  | .call op next, rest => .call op fun answer => (next answer).andThen rest

instance : Monad (Program Op Answer) where
  pure := .done
  bind := andThen

/-- The program that calls one operation and returns its answer. -/
def perform (op : Op) : Program Op Answer (Answer op) := .call op .done

@[simp]
theorem done_bind (value : α) (rest : α → Program Op Answer β) :
    (.done value : Program Op Answer α) >>= rest = rest value := rfl

@[simp]
theorem call_bind (op : Op) (next : Answer op → Program Op Answer α)
    (rest : α → Program Op Answer β) :
    .call op next >>= rest = .call op fun answer => next answer >>= rest := rfl

@[simp]
theorem pure_eq_done (value : α) : (pure value : Program Op Answer α) = .done value := rfl

/-! ## Paths -/

/-- An operation with the answer that it got. -/
abbrev Event (Answer : Op → Type) := (op : Op) × Answer op

/-- The events on the way from a program to one that is left of it. -/
inductive Path : Program Op Answer α → List (Event Answer) → Program Op Answer α → Prop where
  | refl (program : Program Op Answer α) : Path program [] program
  | call {op : Op} {next : Answer op → Program Op Answer α} {answer : Answer op}
      {events : List (Event Answer)} {last : Program Op Answer α}
      (rest : Path (next answer) events last) : Path (.call op next) (⟨op, answer⟩ :: events) last

theorem Path.bind {first : Program Op Answer β} {rest : β → Program Op Answer α} {value : β}
    {last : Program Op Answer α} {events more : List (Event Answer)}
    (path : Path first events (.done value)) (continued : Path (rest value) more last) :
    Path (first >>= rest) (events ++ more) last := by
  generalize ended : (.done value : Program Op Answer β) = final at path
  induction path with
  | refl =>
      subst ended
      exact continued
  | call _ ih => exact .call (ih ended)

theorem Path.bind_left {first last : Program Op Answer β} {events : List (Event Answer)}
    (path : Path first events last) (rest : β → Program Op Answer α) :
    Path (first >>= rest) events (last >>= rest) := by
  induction path with
  | refl => exact .refl _
  | call _ ih => exact .call ih

theorem Path.trans {first between last : Program Op Answer α} {events more : List (Event Answer)}
    (path : Path first events between) (onward : Path between more last) :
    Path first (events ++ more) last := by
  induction path with
  | refl => exact onward
  | call _ ih => exact .call (ih onward)

theorem Path.eq_of_nil {first last : Program Op Answer α} (path : Path first [] last) :
    first = last := by
  cases path
  rfl

/-- The first call on a path, and what is left after its answer. -/
theorem Path.exists_call {first last : Program Op Answer α} {op : Op} {answer : Answer op}
    {events : List (Event Answer)} (path : Path first (⟨op, answer⟩ :: events) last) :
    ∃ next, first = .call op next ∧ Path (next answer) events last := by
  cases path with
  | call rest => exact ⟨_, rfl, rest⟩

/-- A path goes through a program at every point. -/
theorem Path.split {first last : Program Op Answer α} {events more : List (Event Answer)}
    (path : Path first (events ++ more) last) :
    ∃ between, Path first events between ∧ Path between more last := by
  induction events generalizing first with
  | nil => exact ⟨first, .refl first, path⟩
  | cons event events ih =>
      cases path with
      | call rest =>
          rcases ih rest with ⟨between, before, after⟩
          exact ⟨between, .call before, after⟩

theorem Path.snoc {first : Program Op Answer α} {events : List (Event Answer)} {op : Op}
    {next : Answer op → Program Op Answer α} (path : Path first events (.call op next))
    (answer : Answer op) : Path first (events ++ [⟨op, answer⟩]) (next answer) := by
  generalize ended : (.call op next : Program Op Answer α) = last at path
  induction path with
  | refl =>
      subst ended
      exact .call (.refl _)
  | call _ ih => exact .call (ih ended)

/-- A path through two programs ends inside the first, or goes on in the second. -/
theorem Path.of_bind {first : Program Op Answer β} {rest : β → Program Op Answer α}
    {last : Program Op Answer α} {events : List (Event Answer)}
    (path : Path (first >>= rest) events last) :
    (∃ op next, Path first events (.call op next) ∧ last = .call op next >>= rest) ∨
      ∃ value before after, events = before ++ after ∧ Path first before (.done value) ∧
        Path (rest value) after last := by
  induction first generalizing events with
  | done value => exact .inr ⟨value, [], events, rfl, .refl _, path⟩
  | call op next ih =>
      cases path with
      | refl => exact .inl ⟨op, next, .refl _, rfl⟩
      | call path =>
          rcases ih _ path with ⟨lastOp, lastNext, inside, same⟩ |
            ⟨value, before, after, same, finished, continued⟩
          · exact .inl ⟨lastOp, lastNext, .call inside, same⟩
          · refine .inr ⟨value, _ :: before, after, ?_, .call finished, continued⟩
            rw [same, List.cons_append]

/-- The program run against an environment that is a state with a handler. -/
def interpret {τ : Type} (handle : τ → (op : Op) → Answer op × τ) :
    Program Op Answer α → τ → α × τ
  | .done value, state => (value, state)
  | .call op next, state =>
    (next (handle state op).1).interpret handle (handle state op).2

@[simp]
theorem interpret_done {τ : Type} {handle : τ → (op : Op) → Answer op × τ} {value : α}
    {state : τ} : (.done value : Program Op Answer α).interpret handle state = (value, state) := rfl

@[simp]
theorem interpret_call {τ : Type} {handle : τ → (op : Op) → Answer op × τ} {op : Op}
    {next : Answer op → Program Op Answer α} {state : τ} :
    (Program.call op next).interpret handle state =
      (next (handle state op).1).interpret handle (handle state op).2 := rfl

theorem interpret_bind {τ : Type} {handle : τ → (op : Op) → Answer op × τ}
    (first : Program Op Answer β) (rest : β → Program Op Answer α) (state : τ) :
    (first >>= rest).interpret handle state =
      (rest (first.interpret handle state).1).interpret handle
        (first.interpret handle state).2 := by
  induction first generalizing state with
  | done value => rfl
  | call op next ih => exact ih _ _

/-! ## Disciplines -/

/-- What a ghost state allows: an operation, with the ghost state after each answer. -/
abbrev Discipline (Op : Type) (Answer : Op → Type) (γ : Type) :=
  γ → (op : Op) → (Answer op → γ) → Prop

variable {γ ρ : Type} {discipline : Discipline Op Answer γ} {ghost : γ}

/-- The program calls only what the discipline allows, whatever the answers are, and ends in
a ghost state that fits its value. -/
def Follows (discipline : Discipline Op Answer γ) (post : γ → α → Prop) :
    γ → Program Op Answer α → Prop
  | ghost, .done value => post ghost value
  | ghost, .call op next => ∃ after, discipline ghost op after ∧
      ∀ answer, Follows discipline post (after answer) (next answer)

@[simp]
theorem follows_done {post : γ → α → Prop} {value : α} :
    Follows discipline post ghost (.done value : Program Op Answer α) ↔ post ghost value := Iff.rfl

/-- The ghost states along the events of a path. -/
inductive GhostPath (discipline : Discipline Op Answer γ) :
    γ → List (Event Answer) → γ → Prop where
  | refl (ghost : γ) : GhostPath discipline ghost [] ghost
  | call {ghost last : γ} {op : Op} {after : Answer op → γ} {answer : Answer op}
      {events : List (Event Answer)} (allowed : discipline ghost op after)
      (rest : GhostPath discipline (after answer) events last) :
      GhostPath discipline ghost (⟨op, answer⟩ :: events) last

variable {post : γ → α → Prop} {program : Program Op Answer α}

theorem Follows.mono {weaker : γ → α → Prop}
    (implies : ∀ ghost value, post ghost value → weaker ghost value)
    (follows : Follows discipline post ghost program) :
    Follows discipline weaker ghost program := by
  induction program generalizing ghost with
  | done value => exact implies ghost value follows
  | call op next ih =>
      rcases follows with ⟨after, allowed, rest⟩
      exact ⟨after, allowed, fun answer => ih answer (rest answer)⟩

theorem Follows.bind {between : γ → β → Prop} {first : Program Op Answer β}
    {rest : β → Program Op Answer α} (follows : Follows discipline between ghost first)
    (follow : ∀ ghost value, between ghost value →
      Follows discipline post ghost (rest value)) :
    Follows discipline post ghost (first >>= rest) := by
  induction first generalizing ghost with
  | done value => exact follow ghost value follows
  | call op next ih =>
      rcases follows with ⟨after, allowed, answered⟩
      exact ⟨after, allowed, fun answer => ih answer (answered answer)⟩

theorem Follows.path {last : Program Op Answer α} {events : List (Event Answer)}
    (follows : Follows discipline post ghost program) (path : Path program events last) :
    ∃ lastGhost, GhostPath discipline ghost events lastGhost ∧
      Follows discipline post lastGhost last := by
  induction path generalizing ghost with
  | refl => exact ⟨ghost, .refl ghost, follows⟩
  | call path ih =>
      rcases follows with ⟨after, allowed, rest⟩
      rcases ih (rest _) with ⟨lastGhost, ghosts, lastFollows⟩
      exact ⟨lastGhost, .call allowed ghosts, lastFollows⟩

/-! ## Programs with a state of their own -/

section Stateful

variable {σ η : Type}

/-- A program with mutable variables, which it keeps when it stops early with an error. -/
abbrev Stateful (Op : Type) (Answer : Op → Type) (σ η : Type) :=
  ExceptT η (StateT σ (Program Op Answer))

namespace Stateful

/-- The program from given variables on, with its result and the variables it leaves. -/
def start (program : Stateful Op Answer σ η α) (state : σ) :
    Program Op Answer (Except η α × σ) :=
  (ExceptT.run program).run state

/-- One operation of the environment. -/
def ask (op : Op) : Stateful Op Answer σ η (Answer op) :=
  ExceptT.lift (StateT.lift (perform op))

variable {state : σ} {program : Stateful Op Answer σ η α}

@[simp]
theorem start_pure (value : α) :
    start (pure value : Stateful Op Answer σ η α) state = .done (.ok value, state) := rfl

@[simp]
theorem start_throw (error : η) :
    start (throw error : Stateful Op Answer σ η α) state = .done (.error error, state) := rfl

@[simp]
theorem start_ofExcept (result : Except η α) :
    start (MonadExcept.ofExcept result : Stateful Op Answer σ η α) state =
      .done (result, state) := by
  cases result <;> rfl

@[simp]
theorem start_get : start (get : Stateful Op Answer σ η σ) state = .done (.ok state, state) := rfl

@[simp]
theorem start_set (next : σ) :
    start (set next : Stateful Op Answer σ η PUnit) state = .done (.ok ⟨⟩, next) := rfl

@[simp]
theorem start_ask (op : Op) :
    start (ask op : Stateful Op Answer σ η (Answer op)) state =
      .call op fun answer => .done (.ok answer, state) := rfl

/-- The rest of a program runs where the first part left the variables, unless it failed. -/
theorem start_bind (first : Stateful Op Answer σ η β)
    (rest : β → Stateful Op Answer σ η α) :
    start (first >>= rest) state = start first state >>= fun ended =>
      match ended with
      | (.ok value, next) => start (rest value) next
      | (.error error, next) => .done (.error error, next) := by
  change ((ExceptT.run first).run state).andThen _ = ((ExceptT.run first).run state).andThen _
  congr 1
  funext ended
  rcases ended with ⟨result, next⟩
  cases result <;> rfl

/-- A part that calls nothing is left out. -/
theorem start_bind_of_done {first : Stateful Op Answer σ η β}
    {rest : β → Stateful Op Answer σ η α} {value : β} {next : σ}
    (done : first.start state = .done (.ok value, next)) :
    (first >>= rest).start state = (rest value).start next := by
  rw [start_bind, done]
  rfl

theorem path_bind {first : Stateful Op Answer σ η β} {rest : β → Stateful Op Answer σ η α}
    {value : β} {next : σ} {last : Program Op Answer (Except η α × σ)}
    {events more : List (Event Answer)}
    (path : Path (first.start state) events (.done (.ok value, next)))
    (continued : Path ((rest value).start next) more last) :
    Path ((first >>= rest).start state) (events ++ more) last := by
  rw [start_bind]
  exact path.bind continued

/-- The rest of a program is left when its first part is done. -/
theorem path_bind_done {first : Stateful Op Answer σ η β} {rest : β → Stateful Op Answer σ η α}
    {value : β} {next : σ} {events : List (Event Answer)}
    (path : Path (first.start state) events (.done (.ok value, next))) :
    Path ((first >>= rest).start state) events ((rest value).start next) := by
  rw [← List.append_nil events]
  exact path_bind path (.refl _)

/-- A path through the first part is one through the whole. -/
theorem path_bind_left {first last : Stateful Op Answer σ η β}
    {rest : β → Stateful Op Answer σ η α} {next : σ} {events : List (Event Answer)}
    (path : Path (first.start state) events (last.start next)) :
    Path ((first >>= rest).start state) events ((last >>= rest).start next) := by
  rw [start_bind, start_bind]
  exact path.bind_left _

/-- A failed program is recovered from by the handler, with the variables it left. -/
theorem start_tryCatch (first : Stateful Op Answer σ η α) (handle : η → Stateful Op Answer σ η α) :
    start (tryCatch first handle) state = start first state >>= fun ended =>
      match ended with
      | (.ok value, next) => .done (.ok value, next)
      | (.error error, next) => start (handle error) next := by
  change ((ExceptT.run first).run state).andThen _ = ((ExceptT.run first).run state).andThen _
  congr 1
  funext ended
  rcases ended with ⟨result, next⟩
  cases result <;> rfl

theorem path_tryCatch {first : Stateful Op Answer σ η α} {handle : η → Stateful Op Answer σ η α}
    {value : α} {next : σ} {events : List (Event Answer)}
    (path : Path (first.start state) events (.done (.ok value, next))) :
    Path ((tryCatch first handle).start state) events (.done (.ok value, next)) := by
  rw [start_tryCatch, ← List.append_nil events]
  exact path.bind (.refl _)

/-- A path through two parts ends inside the first, fails in it, or goes on in the second. -/
theorem path_bind_cases {first : Stateful Op Answer σ η β} {rest : β → Stateful Op Answer σ η α}
    {last : Program Op Answer (Except η α × σ)} {events : List (Event Answer)}
    (path : Path ((first >>= rest).start state) events last) :
    (∃ op next left, Path (first.start state) events (.call op next) ∧ last = .call op left) ∨
      (∃ error next, Path (first.start state) events (.done (.error error, next)) ∧
        last = .done (.error error, next)) ∨
      ∃ value next before after, events = before ++ after ∧
        Path (first.start state) before (.done (.ok value, next)) ∧
        Path ((rest value).start next) after last := by
  rw [start_bind] at path
  rcases path.of_bind with ⟨op, next, inside, same⟩ | ⟨ended, before, after, same, finished, path⟩
  · exact .inl ⟨op, next, _, inside, same⟩
  · rcases ended with ⟨error | value, next⟩
    · cases path with
      | refl =>
          rw [List.append_nil] at same
          subst same
          exact .inr (.inl ⟨error, next, finished, rfl⟩)
    · exact .inr (.inr ⟨value, next, before, after, same, finished, path⟩)

theorem path_ask_bind {op : Op} {answer : Answer op}
    {rest : Answer op → Stateful Op Answer σ η α} {last : Program Op Answer (Except η α × σ)}
    {events : List (Event Answer)} (continued : Path ((rest answer).start state) events last) :
    Path ((ask op >>= rest).start state) (⟨op, answer⟩ :: events) last := .call continued

section Interpret

variable {τ : Type} {handle : τ → (op : Op) → Answer op × τ} {environment after : τ} {next : σ}
  {first : Stateful Op Answer σ η β}

theorem interpret_bind_ok {value : β} (rest : β → Stateful Op Answer σ η α)
    (ran : (first.start state).interpret handle environment = ((.ok value, next), after)) :
    ((first >>= rest).start state).interpret handle environment =
      ((rest value).start next).interpret handle after := by
  rw [start_bind, interpret_bind, ran]

theorem interpret_bind_error {error : η} (rest : β → Stateful Op Answer σ η α)
    (ran : (first.start state).interpret handle environment = ((.error error, next), after)) :
    ((first >>= rest).start state).interpret handle environment =
      ((.error error, next), after) := by
  rw [start_bind, interpret_bind, ran]
  rfl

end Interpret

/-- The program follows the discipline from given variables on. -/
def Follows (discipline : Discipline Op Answer γ) (post : γ → Except η α → σ → Prop)
    (ghost : γ) (state : σ) (program : Stateful Op Answer σ η α) : Prop :=
  Program.Follows discipline (fun ghost ended => post ghost ended.1 ended.2) ghost
    (program.start state)

variable {post : γ → Except η α → σ → Prop}

theorem Follows.mono {weaker : γ → Except η α → σ → Prop}
    (follows : Follows discipline post ghost state program)
    (implies : ∀ ghost result state, post ghost result state → weaker ghost result state) :
    Follows discipline weaker ghost state program :=
  Program.Follows.mono (fun ghost ended => implies ghost ended.1 ended.2) follows

theorem Follows.bind {between : γ → Except η β → σ → Prop}
    {first : Stateful Op Answer σ η β} {rest : β → Stateful Op Answer σ η α}
    (follows : Follows discipline between ghost state first)
    (succeed : ∀ ghost value state, between ghost (.ok value) state →
      Follows discipline post ghost state (rest value))
    (fail : ∀ ghost error state, between ghost (.error error) state →
      post ghost (.error error) state) :
    Follows discipline post ghost state (first >>= rest) := by
  rw [Follows, start_bind]
  apply Program.Follows.bind follows
  intro ghost ended holds
  rcases ended with ⟨error | value, next⟩
  · exact fail ghost error next holds
  · exact succeed ghost value next holds

theorem Follows.tryCatch {between : γ → Except η α → σ → Prop}
    {first : Stateful Op Answer σ η α} {handle : η → Stateful Op Answer σ η α}
    (follows : Follows discipline between ghost state first)
    (succeed : ∀ ghost value state, between ghost (.ok value) state →
      post ghost (.ok value) state)
    (fail : ∀ ghost error state, between ghost (.error error) state →
      Follows discipline post ghost state (handle error)) :
    Follows discipline post ghost state (tryCatch first handle) := by
  rw [Follows, start_tryCatch]
  apply Program.Follows.bind follows
  intro ghost ended holds
  rcases ended with ⟨error | value, next⟩
  · exact fail ghost error next holds
  · exact succeed ghost value next holds

theorem Follows.ask_bind {op : Op} {after : Answer op → γ}
    {rest : Answer op → Stateful Op Answer σ η α} (allowed : discipline ghost op after)
    (answered : ∀ answer, Follows discipline post (after answer) state (rest answer)) :
    Follows discipline post ghost state (ask op >>= rest) :=
  ⟨after, allowed, answered⟩

/-- As `Follows`, but only for the values of a program that does not fail. -/
def Ensures (discipline : Discipline Op Answer γ) (post : γ → α → σ → Prop) (ghost : γ)
    (state : σ) (program : Stateful Op Answer σ η α) : Prop :=
  Follows discipline (fun ghost result state => ∀ value, result = .ok value →
    post ghost value state) ghost state program

variable {ensured : γ → α → σ → Prop}

theorem Ensures.pure {value : α} (holds : ensured ghost value state) :
    Ensures discipline ensured ghost state (pure value : Stateful Op Answer σ η α) := by
  intro other same
  rw [← Except.ok.inj same]
  exact holds

theorem Ensures.throw {error : η} :
    Ensures discipline ensured ghost state (throw error : Stateful Op Answer σ η α) := by
  intro _ same
  simp at same

theorem Ensures.get_bind {rest : σ → Stateful Op Answer σ η α}
    (ensures : Ensures discipline ensured ghost state (rest state)) :
    Ensures discipline ensured ghost state (get >>= rest) := ensures

theorem Ensures.bind {between : γ → β → σ → Prop} {first : Stateful Op Answer σ η β}
    {rest : β → Stateful Op Answer σ η α}
    (ensures : Ensures discipline between ghost state first)
    (succeed : ∀ ghost value state, between ghost value state →
      Ensures discipline ensured ghost state (rest value)) :
    Ensures discipline ensured ghost state (first >>= rest) := by
  apply Follows.bind ensures
  · intro ghost value state holds
    exact succeed ghost value state (holds value rfl)
  · intro _ _ _ _ _ same
    simp at same

theorem Ensures.mono {stronger : γ → α → σ → Prop}
    (ensures : Ensures discipline stronger ghost state program)
    (implies : ∀ ghost value state, stronger ghost value state → ensured ghost value state) :
    Ensures discipline ensured ghost state program := by
  apply Follows.mono ensures
  intro ghost result state holds value same
  exact implies ghost value state (holds value same)

/-- What a program returns when its variables are dropped. -/
theorem Ensures.result (ensures : Ensures discipline ensured ghost state program) :
    Program.Follows discipline
      (fun ghost result => ∀ value, result = .ok value → ∃ state, ensured ghost value state) ghost
      (Prod.fst <$> program.start state) := by
  apply Program.Follows.bind ensures
  intro ghost ended holds value same
  exact ⟨ended.2, holds value same⟩

end Stateful

end Stateful

/-! ## Operations carried out by other operations -/

section Implement

variable {Op' : Type} {Answer' : Op' → Type} {σ : Type}

/-- Every call is replaced by a program that carries it out, with variables of its own. -/
def implement (handle : (op : Op) → StateT σ (Program Op' Answer') (Answer op)) :
    Program Op Answer α → StateT σ (Program Op' Answer') α
  | .done value => fun state => .done (value, state)
  | .call op next => fun state =>
    (handle op state).andThen fun answered => (next answered.1).implement handle answered.2

/-- If what carries out an operation follows the lower discipline whenever the upper one allows
the operation, then so does the whole program. -/
theorem Follows.implement {lower : Discipline Op' Answer' ρ}
    {handle : (op : Op) → StateT σ (Program Op' Answer') (Answer op)}
    {linked : ρ → γ → σ → Prop}
    (handled : ∀ {below above state op after}, linked below above state →
      discipline above op after → Follows lower
        (fun below (answered : Answer op × σ) => linked below (after answered.1) answered.2)
        below (handle op state))
    (follows : Follows discipline post ghost program) {below : ρ} {state : σ}
    (link : linked below ghost state) :
    Follows lower (fun below (ended : α × σ) => ∃ above, linked below above ended.2 ∧
      post above ended.1) below (program.implement handle state) := by
  induction program generalizing ghost below state with
  | done value => exact ⟨ghost, link, follows⟩
  | call op next ih =>
      rcases follows with ⟨after, allowed, rest⟩
      apply Follows.bind (handled link allowed)
      intro below answered link
      exact ih answered.1 (rest answered.1) link

/-- Where a program ends whose calls are carried out, there it ends on its own. -/
theorem Path.of_implement {handle : (op : Op) → StateT σ (Program Op' Answer') (Answer op)}
    {state last : σ} {value : α} {events : List (Event Answer')}
    (path : Path (program.implement handle state) events (.done (value, last))) :
    ∃ calls, Path program calls (.done value) := by
  induction program generalizing state events with
  | done result =>
      cases path
      exact ⟨[], .refl _⟩
  | call op next ih =>
      have path : Path (handle op state >>= fun answered =>
        (next answered.1).implement handle answered.2) events (.done (value, last)) := path
      rcases path.of_bind with ⟨_, _, _, same⟩ | ⟨answered, _, _, _, _, rest⟩
      · cases same
      · rcases ih answered.1 rest with ⟨calls, onward⟩
        exact ⟨⟨op, answered.1⟩ :: calls, .call onward⟩

end Implement

/-! ## Several programs in one environment -/

section Network

variable {ι ε : Type}

/-- How an environment may answer an operation of one of the parties. -/
abbrev Environment (ι ε Op : Type) (Answer : Op → Type) :=
  ε → ι → (op : Op) → Answer op → ε → Prop

/-- What is left of the program of every party. -/
structure Network (ι ε Op : Type) (Answer : Op → Type) (α : Type) where
  environment : ε
  program : ι → Program Op Answer α

/-- The environment answers the events of one party, one after the other. -/
inductive Answered (answers : Environment ι ε Op Answer) (party : ι) :
    ε → List (Event Answer) → ε → Prop where
  | refl (environment : ε) : Answered answers party environment [] environment
  | call {before between after : ε} {op : Op} {answer : Answer op} {events : List (Event Answer)}
      (answered : answers before party op answer between)
      (rest : Answered answers party between events after) :
      Answered answers party before (⟨op, answer⟩ :: events) after

theorem Answered.trans {answers : Environment ι ε Op Answer} {party : ι}
    {before between after : ε} {events more : List (Event Answer)}
    (answered : Answered answers party before events between)
    (further : Answered answers party between more after) :
    Answered answers party before (events ++ more) after := by
  induction answered with
  | refl => exact further
  | call first _ ih => exact .call first (ih further)

variable [DecidableEq ι]

/-- One party calls an operation, and the environment answers it. -/
inductive Step (answers : Environment ι ε Op Answer) :
    Network ι ε Op Answer α → Network ι ε Op Answer α → Prop where
  | call {network : Network ι ε Op Answer α} {party : ι} {op : Op}
      {next : Answer op → Program Op Answer α} {answer : Answer op} {environment : ε}
      (calls : network.program party = .call op next)
      (answered : answers network.environment party op answer environment) :
      Step answers network
        { environment, program := Function.update network.program party (next answer) }

variable {answers : Environment ι ε Op Answer} {network last : Network ι ε Op Answer α}

/-- One party goes along a path, while the others wait. -/
theorem steps_of_path (party : ι) {left : Program Op Answer α} {events : List (Event Answer)}
    {after : ε} (path : Path (network.program party) events left)
    (answered : Answered answers party network.environment events after) :
    Relation.ReflTransGen (Step answers) network
      { environment := after, program := Function.update network.program party left } := by
  generalize here : network.program party = program at path
  induction path generalizing network with
  | refl =>
      cases answered
      rw [← here, Function.update_eq_self]
  | @call op next answer events left _ ih =>
      cases answered with
      | @call _ between _ _ _ _ answered rest =>
          let moved : Network ι ε Op Answer α :=
            { environment := between
              program := Function.update network.program party (next answer) }
          have step : Step answers network moved := .call here answered
          have steps := @ih moved rest (Function.update_self ..)
          rw [Function.update_idem] at steps
          exact .head step steps

/-- What the disciplines of the parties preserve holds in every interleaving of programs that
follow them. -/
theorem invariant_of_steps {disciplines : ι → Discipline Op Answer γ}
    {posts : ι → γ → α → Prop} {invariant : ε → (ι → γ) → Prop}
    (preserved : ∀ {before after : ε} {ghosts : ι → γ} {party : ι} {op : Op}
      {next : Answer op → γ} {answer : Answer op}, invariant before ghosts →
      disciplines party (ghosts party) op next → answers before party op answer after →
        invariant after (Function.update ghosts party (next answer)))
    {ghosts : ι → γ} (holds : invariant network.environment ghosts)
    (follow : ∀ party,
      Follows (disciplines party) (posts party) (ghosts party) (network.program party))
    (steps : Relation.ReflTransGen (Step answers) network last) :
    ∃ ghosts, invariant last.environment ghosts ∧ ∀ party,
      Follows (disciplines party) (posts party) (ghosts party) (last.program party) := by
  induction steps with
  | refl => exact ⟨ghosts, holds, follow⟩
  | tail _ step ih =>
      rcases ih with ⟨ghosts, holds, follow⟩
      cases step with
      | @call party op next answer environment calls answered =>
          have here := follow party
          rw [calls] at here
          rcases here with ⟨after, allowed, rest⟩
          refine ⟨_, preserved holds allowed answered, ?_⟩
          intro other
          by_cases same : other = party
          · subst other
            simpa using rest answer
          · simpa [same] using follow other

/-- Every party has gone along a path, and what holds of the environment and the events of
every party is preserved by each answer. -/
theorem paths_of_steps {invariant : ε → (ι → List (Event Answer)) → Prop}
    (preserved : ∀ {before after : ε} {events : ι → List (Event Answer)} {party : ι} {op : Op}
      {answer : Answer op}, invariant before events → answers before party op answer after →
        invariant after (Function.update events party (events party ++ [⟨op, answer⟩])))
    (holds : invariant network.environment fun _ => [])
    (steps : Relation.ReflTransGen (Step answers) network last) :
    ∃ events, invariant last.environment events ∧ ∀ party,
      Path (network.program party) (events party) (last.program party) := by
  induction steps with
  | refl => exact ⟨_, holds, fun party => .refl _⟩
  | tail _ step ih =>
      rcases ih with ⟨events, holds, paths⟩
      cases step with
      | @call party op next answer environment calls answered =>
          refine ⟨_, preserved holds answered, ?_⟩
          intro other
          by_cases same : other = party
          · subst other
            have path := paths party
            rw [calls] at path
            simpa using path.snoc answer
          · simpa [same] using paths other

/-- Every party keeps following its discipline, whatever the others do. -/
theorem follows_of_steps {disciplines : ι → Discipline Op Answer γ} {posts : ι → γ → α → Prop}
    {ghosts : ι → γ}
    (follow : ∀ party,
      Follows (disciplines party) (posts party) (ghosts party) (network.program party))
    (steps : Relation.ReflTransGen (Step answers) network last) :
    ∃ ghosts : ι → γ, ∀ party,
      Follows (disciplines party) (posts party) (ghosts party) (last.program party) := by
  have preserved : ∀ {before after : ε} {ghosts : ι → γ} {party : ι} {op : Op}
      {next : Answer op → γ} {answer : Answer op}, True → disciplines party (ghosts party) op next →
      answers before party op answer after → True := fun _ _ _ => trivial
  rcases invariant_of_steps preserved trivial follow steps with ⟨lastGhosts, _, follows⟩
  exact ⟨lastGhosts, follows⟩

/-- No party can be moved: all are done, or wait for an answer that does not come. -/
def Network.Stuck (answers : Environment ι ε Op Answer) (network : Network ι ε Op Answer α) :
    Prop := ∀ next, ¬ Step answers network next

/-- An environment gives at most one answer, and the calls of two parties commute. -/
structure Commutes (answers : Environment ι ε Op Answer) : Prop where
  deterministic : ∀ {before first second : ε} {party : ι} {op : Op} {left right : Answer op},
    answers before party op left first → answers before party op right second →
      left = right ∧ first = second
  commute : ∀ {before first second : ε} {party other : ι} {op otherOp : Op}
    {answer : Answer op} {otherAnswer : Answer otherOp}, party ≠ other →
    answers before party op answer first → answers before other otherOp otherAnswer second →
      ∃ after, answers first other otherOp otherAnswer after ∧ answers second party op answer after

/-- Two steps from one network lead to one network again. -/
theorem Commutes.diamond (commutes : Commutes answers)
    {first second : Network ι ε Op Answer α} (left : Step answers network first)
    (right : Step answers network second) :
    ∃ joined, Relation.ReflGen (Step answers) first joined ∧
      Relation.ReflTransGen (Step answers) second joined := by
  cases left with
  | @call party op next answer environment calls answered =>
  cases right with
  | @call other otherOp otherNext otherAnswer otherEnvironment otherCalls otherAnswered =>
  by_cases same : party = other
  · subst other
    rw [calls] at otherCalls
    cases otherCalls
    rcases commutes.deterministic answered otherAnswered with ⟨sameAnswer, sameEnvironment⟩
    subst sameAnswer sameEnvironment
    exact ⟨_, .refl, .refl⟩
  · rcases commutes.commute same answered otherAnswered with ⟨after, otherNow, partyNow⟩
    let programs := Function.update network.program party (next answer)
    refine ⟨⟨after, Function.update programs other (otherNext otherAnswer)⟩,
      .single (.call ?_ otherNow), .single ?_⟩
    · simpa [Ne.symm same] using otherCalls
    · rw [Function.update_comm same]
      refine .call ?_ partyNow
      simpa [same] using calls

/-- If one interleaving gets stuck, then every other one can only end where it did. -/
theorem Commutes.steps_of_stuck (commutes : Commutes answers)
    {ended : Network ι ε Op Answer α}
    (ends : Relation.ReflTransGen (Step answers) network ended) (stuck : ended.Stuck answers)
    (steps : Relation.ReflTransGen (Step answers) network last) :
    Relation.ReflTransGen (Step answers) last ended := by
  rcases Relation.church_rosser (fun _ _ _ left right => commutes.diamond left right)
    ends steps with ⟨joined, fromEnded, fromLast⟩
  rcases fromEnded.cases_head with same | ⟨next, step, _⟩
  · rw [same]
    exact fromLast
  · exact (stuck next step).elim

/-- Every interleaving ends, and in the same network. -/
structure Network.EndsIn (answers : Environment ι ε Op Answer)
    (network ended : Network ι ε Op Answer α) : Prop where
  finite : Acc (fun after before => Step answers before after) network
  reaches : ∀ last, Relation.ReflTransGen (Step answers) network last →
    Relation.ReflTransGen (Step answers) last ended
  stuck : ended.Stuck answers

/-- Every step takes a call off one program, so no interleaving goes on forever. -/
theorem wellFounded_step [Finite ι] (answers : Environment ι ε Op Answer) :
    WellFounded fun after before : Network ι ε Op Answer α => Step answers before after := by
  let child (after before : Program Op Answer α) : Prop :=
    ∃ op next answer, before = .call op next ∧ after = next answer
  have childWellFounded : WellFounded child := by
    apply WellFounded.intro
    intro program
    induction program with
    | done value =>
        apply Acc.intro
        intro after smaller
        rcases smaller with ⟨_, _, _, same, _⟩
        cases same
    | call op next ih =>
        apply Acc.intro
        intro after smaller
        rcases smaller with ⟨_, _, answer, same, below⟩
        cases same
        rw [below]
        exact ih answer
  let order : LinearOrder ι := IsWellOrder.linearOrder WellOrderingRel
  have programs : WellFounded (Pi.Lex (· < ·) (fun {_ : ι} => child)) :=
    Pi.Lex.wellFounded (· < ·) fun _ => childWellFounded
  apply Subrelation.wf _ (InvImage.wf Network.program programs)
  intro after before step
  cases step with
  | @call party op next answer environment calls answered =>
      refine ⟨party, ?_, ?_⟩
      · intro earlier less
        exact Function.update_of_ne (ne_of_lt less) _ _
      · exact ⟨op, next, answer, calls, by simp⟩

/-- One interleaving of programs whose calls commute tells how all of them end. -/
theorem Commutes.endsIn [Finite ι] (commutes : Commutes answers)
    {ended : Network ι ε Op Answer α} (ends : Relation.ReflTransGen (Step answers) network ended)
    (stuck : ended.Stuck answers) : network.EndsIn answers ended where
  finite := (wellFounded_step answers).apply network
  reaches _ steps := commutes.steps_of_stuck ends stuck steps
  stuck := stuck

/-- Every run can be continued until no party can be moved. -/
theorem Network.exists_stuck [Finite ι] (answers : Environment ι ε Op Answer)
    (network : Network ι ε Op Answer α) :
    ∃ last, Relation.ReflTransGen (Step answers) network last ∧ last.Stuck answers := by
  induction network using (wellFounded_step answers).induction with
  | _ network ih =>
      by_cases stuck : network.Stuck answers
      · exact ⟨network, .refl, stuck⟩
      · rw [Stuck, not_forall] at stuck
        rcases stuck with ⟨next, moves⟩
        have step := not_not.mp moves
        rcases ih next step with ⟨last, steps, ends⟩
        exact ⟨last, .head step steps, ends⟩

/-- Nothing happens once every program is done. -/
theorem Network.stuck_of_done (done : ∀ party, ∃ value, network.program party = .done value) :
    network.Stuck answers := by
  intro next step
  cases step with
  | @call party _ _ _ _ calls _ =>
      rcases done party with ⟨value, same⟩
      rw [same] at calls
      cases calls

end Network

end Program
