import Mathlib

/-!
# Finite interactions with an answering device

A driver that talks to a device is a finite tree.  At every node it either
returns, or sends one query and continues with the reply.  The tree fixes no
meaning for the replies: they are supplied by a world, which answers the
`n`-th query of a run as it likes.

Three judgments are read off the tree alone.  `Always` says that a
postcondition holds however the queries are answered.  `Records` says the same
of a relation between the result and the transcript of the exchanges.
`Matches` relates two trees which send the same queries and whose results stay
related under every common sequence of replies.  All three are compositional
in `bind`, and all are transported to runs in an arbitrary world.
-/

namespace Pareader.Core

universe u

/-- A finite tree of queries, with results at its leaves. -/
inductive Interaction (Query Reply : Type) (α : Type u) where
  | done (result : α)
  | ask (query : Query) (resume : Reply → Interaction Query Reply α)

namespace Interaction

variable {Query Reply : Type} {α β γ δ : Type u}

/-- Continue every leaf of an interaction. -/
def bind :
    Interaction Query Reply α →
      (α → Interaction Query Reply β) →
        Interaction Query Reply β
  | .done result, next => next result
  | .ask query resume, next =>
      .ask query (fun reply => (resume reply).bind next)

instance : Monad (Interaction Query Reply) where
  pure := .done
  bind := bind

@[simp]
theorem pure_eq (result : α) :
    (pure result : Interaction Query Reply α) = .done result :=
  rfl

@[simp]
theorem bind_done
    (result : α) (next : α → Interaction Query Reply β) :
    (Interaction.done result >>= next) = next result :=
  rfl

@[simp]
theorem bind_ask
    (query : Query)
    (resume : Reply → Interaction Query Reply α)
    (next : α → Interaction Query Reply β) :
    (Interaction.ask query resume >>= next) =
      .ask query (fun reply => resume reply >>= next) :=
  rfl

/-! ## Runs in a world -/

/-- A world answers the `n`-th query of a run. -/
abbrev World (Query Reply : Type) := Nat → Query → Reply

/-- The world which remains after one query has been answered. -/
def World.later (world : World Query Reply) : World Query Reply :=
  fun index => world (index + 1)

/-- The result of an interaction in a world. -/
def run (world : World Query Reply) :
    Interaction Query Reply α → α
  | .done result => result
  | .ask query resume => run world.later (resume (world 0 query))

@[simp]
theorem run_done (world : World Query Reply) (result : α) :
    run world (.done result) = result :=
  rfl

@[simp]
theorem run_ask
    (world : World Query Reply) (query : Query)
    (resume : Reply → Interaction Query Reply α) :
    run world (.ask query resume) =
      run world.later (resume (world 0 query)) :=
  rfl

/-- The world which remains after some queries have been answered. -/
def World.drop (world : World Query Reply) (count : Nat) :
    World Query Reply :=
  fun index => world (index + count)

/-- Only the interaction itself depends on the world, not a final map. -/
theorem run_bind_done
    (world : World Query Reply)
    (program : Interaction Query Reply α) (finish : α → β) :
    run world (program >>= fun result => .done (finish result)) =
      finish (run world program) := by
  induction program generalizing world with
  | done result => rfl
  | ask query resume induction =>
      exact induction (world 0 query) world.later

/-! ## Postconditions -/

/-- The postcondition holds at every leaf, whatever the replies. -/
def Always (post : α → Prop) : Interaction Query Reply α → Prop
  | .done result => post result
  | .ask _ resume => ∀ reply, (resume reply).Always post

@[simp]
theorem always_done (post : α → Prop) (result : α) :
    (Interaction.done result : Interaction Query Reply α).Always post ↔
      post result :=
  Iff.rfl

@[simp]
theorem always_ask
    (post : α → Prop) (query : Query)
    (resume : Reply → Interaction Query Reply α) :
    (Interaction.ask query resume).Always post ↔
      ∀ reply, (resume reply).Always post :=
  Iff.rfl

/-- A postcondition of a sequence is one of its first part. -/
theorem always_bind
    (post : β → Prop)
    (first : Interaction Query Reply α)
    (next : α → Interaction Query Reply β) :
    (first >>= next).Always post ↔
      first.Always (fun result => (next result).Always post) := by
  induction first with
  | done result => rfl
  | ask query resume induction =>
      simp only [bind_ask, always_ask]
      exact forall_congr' induction

theorem Always.mono
    {weak strong : α → Prop}
    {program : Interaction Query Reply α}
    (holds : program.Always strong)
    (weaken : ∀ result, strong result → weak result) :
    program.Always weak := by
  induction program with
  | done result => exact weaken result holds
  | ask query resume induction =>
      intro reply
      exact induction reply (holds reply)

theorem Always.of_forall
    {post : α → Prop}
    {program : Interaction Query Reply α}
    (holds : ∀ result, post result) :
    program.Always post := by
  induction program with
  | done result => exact holds result
  | ask query resume induction => exact induction

/-- Sequencing rule: a postcondition of the first part enables the second. -/
theorem Always.bind
    {middle : α → Prop} {post : β → Prop}
    {first : Interaction Query Reply α}
    {next : α → Interaction Query Reply β}
    (holds : first.Always middle)
    (continues : ∀ result, middle result → (next result).Always post) :
    (first >>= next).Always post :=
  (always_bind post first next).mpr (holds.mono continues)

/-- Sequencing rule where nothing is asked of the first part. -/
theorem Always.after
    {post : β → Prop}
    {first : Interaction Query Reply α}
    {next : α → Interaction Query Reply β}
    (continues : ∀ result, (next result).Always post) :
    (first >>= next).Always post :=
  (always_bind post first next).mpr (.of_forall continues)

/-- What holds of every leaf holds of the result in every world. -/
theorem Always.run
    {post : α → Prop}
    {program : Interaction Query Reply α}
    (holds : program.Always post)
    (world : World Query Reply) :
    post (program.run world) := by
  induction program generalizing world with
  | done result => exact holds
  | ask query resume induction =>
      exact induction (world 0 query) (holds _) world.later

/-! ## Transcripts -/

/-- The queries of a run with the replies they receive, in order. -/
def transcript (world : World Query Reply) :
    Interaction Query Reply α → List (Query × Reply)
  | .done _ => []
  | .ask query resume =>
      (query, world 0 query) ::
        transcript world.later (resume (world 0 query))

/-- The rest of a program meets the world after the first exchanges. -/
theorem run_bind
    (world : World Query Reply)
    (first : Interaction Query Reply α)
    (next : α → Interaction Query Reply β) :
    run world (first >>= next) =
      run (world.drop (transcript world first).length)
        (next (run world first)) := by
  induction first generalizing world with
  | done result => rfl
  | ask query resume induction =>
      exact induction (world 0 query) world.later

@[simp]
theorem World.drop_drop (world : World Query Reply) (first second : Nat) :
    (world.drop first).drop second = world.drop (first + second) := by
  funext index
  exact congrArg world (by omega)

/-- The rest of a program adds its exchanges to those of the first part. -/
theorem transcript_bind
    (world : World Query Reply)
    (first : Interaction Query Reply α)
    (next : α → Interaction Query Reply β) :
    transcript world (first >>= next) =
      transcript world first ++
        transcript (world.drop (transcript world first).length)
          (next (run world first)) := by
  induction first generalizing world with
  | done result => rfl
  | ask query resume induction =>
      exact congrArg ((query, world 0 query) :: ·)
        (induction (world 0 query) world.later)

/-- A final map sends nothing. -/
theorem transcript_bind_done
    (world : World Query Reply)
    (program : Interaction Query Reply α) (finish : α → β) :
    transcript world (program >>= fun result => .done (finish result)) =
      transcript world program := by
  induction program generalizing world with
  | done result => rfl
  | ask query resume induction =>
      exact congrArg ((query, world 0 query) :: ·)
        (induction (world 0 query) world.later)

/--
A relation between transcript and result holds at every leaf, whatever the
replies.
-/
def Records (post : List (Query × Reply) → α → Prop) :
    Interaction Query Reply α → Prop
  | .done result => post [] result
  | .ask query resume =>
      ∀ reply, (resume reply).Records
        (fun history result => post ((query, reply) :: history) result)

theorem Records.mono
    {weak strong : List (Query × Reply) → α → Prop}
    {program : Interaction Query Reply α}
    (holds : program.Records strong)
    (weaken : ∀ history result,
      strong history result → weak history result) :
    program.Records weak := by
  induction program generalizing weak strong with
  | done result => exact weaken [] result holds
  | ask query resume induction =>
      intro reply
      exact induction reply (holds reply)
        (fun history result => weaken _ result)

theorem Records.of_forall
    {post : List (Query × Reply) → α → Prop}
    {program : Interaction Query Reply α}
    (holds : ∀ history result, post history result) :
    program.Records post := by
  induction program generalizing post with
  | done result => exact holds [] result
  | ask query resume induction =>
      intro reply
      exact induction reply (fun history => holds _)

/-- Sequencing rule: the transcripts are appended. -/
theorem Records.bind
    {middle : List (Query × Reply) → α → Prop}
    {post : List (Query × Reply) → β → Prop}
    {first : Interaction Query Reply α}
    {next : α → Interaction Query Reply β}
    (holds : first.Records middle)
    (continues : ∀ earlier result, middle earlier result →
      (next result).Records
        (fun history final => post (earlier ++ history) final)) :
    (first >>= next).Records post := by
  induction first generalizing middle post with
  | done result => exact continues [] result holds
  | ask query resume induction =>
      intro reply
      exact induction reply (holds reply)
        (fun earlier result => continues ((query, reply) :: earlier) result)

/-- What holds at every leaf holds of the run in every world. -/
theorem Records.run
    {post : List (Query × Reply) → α → Prop}
    {program : Interaction Query Reply α}
    (holds : program.Records post)
    (world : World Query Reply) :
    post (program.transcript world) (program.run world) := by
  induction program generalizing world post with
  | done result => exact holds
  | ask query resume induction =>
      exact induction (world 0 query) (holds _) world.later

/-! ## Programs with a single exchange -/

/-- The program sends exactly one query, whatever the reply. -/
def Single (program : Interaction Query Reply α) : Prop :=
  ∃ (query : Query) (finish : Reply → α),
    program = .ask query (fun reply => .done (finish reply))

/-- One exchange is a whole run of a program, with its result. -/
structure RunsIn
    (program : Interaction Query Reply α)
    (exchange : Query × Reply) (result : α) : Prop where
  sent : program.transcript (fun _ _ => exchange.2) = [exchange]
  returned : program.run (fun _ _ => exchange.2) = result

theorem Single.bind
    {first : Interaction Query Reply α}
    {next : α → Interaction Query Reply β}
    (single : first.Single)
    (finishes : ∀ result, ∃ final, next result = .done final) :
    (first >>= next).Single := by
  rcases single with ⟨query, finish, rfl⟩
  choose final same using finishes
  refine ⟨query, fun reply => final (finish reply), ?_⟩
  rw [bind_ask]
  congr 1
  funext reply
  exact same (finish reply)

/-- The rest of a program meets the world after the exchange. -/
theorem Single.run_bind
    {first : Interaction Query Reply α}
    (single : first.Single) (world : World Query Reply)
    (next : α → Interaction Query Reply β) :
    (first >>= next).run world =
      (next (first.run world)).run world.later := by
  rcases single with ⟨query, finish, rfl⟩
  rfl

theorem Single.records
    {program : Interaction Query Reply α} (single : program.Single) :
    program.Records
      (fun history result =>
        ∃ exchange, history = [exchange] ∧
          program.RunsIn exchange result) := by
  rcases single with ⟨query, finish, rfl⟩
  intro reply
  exact ⟨(query, reply), rfl, rfl, rfl⟩

/-- The reply of an exchange determines the result of the program. -/
theorem RunsIn.unique
    {program : Interaction Query Reply α} {exchange : Query × Reply}
    {first second : α}
    (left : program.RunsIn exchange first)
    (right : program.RunsIn exchange second) :
    first = second :=
  left.returned.symm.trans right.returned

/-! ## Two programs that ask the same questions -/

/--
Two programs match when they send the same queries and every common sequence
of replies leads them to related results.
-/
def Matches (relation : α → β → Prop) :
    Interaction Query Reply α → Interaction Query Reply β → Prop
  | .done left, .done right => relation left right
  | .ask leftQuery leftResume, .ask rightQuery rightResume =>
      leftQuery = rightQuery ∧
        ∀ reply, Matches relation (leftResume reply) (rightResume reply)
  | _, _ => False

theorem Matches.refl
    {relation : α → α → Prop}
    (reflexive : ∀ result, relation result result)
    (program : Interaction Query Reply α) :
    Matches relation program program := by
  induction program with
  | done result => exact reflexive result
  | ask query resume induction => exact ⟨rfl, induction⟩

/-- Matching is compositional. -/
theorem Matches.bind
    {relation : α → β → Prop} {target : γ → δ → Prop}
    {left : Interaction Query Reply α}
    {right : Interaction Query Reply β}
    {leftNext : α → Interaction Query Reply γ}
    {rightNext : β → Interaction Query Reply δ}
    (matched : Matches relation left right)
    (continues : ∀ first second, relation first second →
      Matches target (leftNext first) (rightNext second)) :
    Matches target (left >>= leftNext) (right >>= rightNext) := by
  induction left generalizing right with
  | done first =>
      cases right with
      | done second => exact continues first second matched
      | ask query resume => exact matched.elim
  | ask query resume induction =>
      cases right with
      | done second => exact matched.elim
      | ask rightQuery rightResume =>
          exact ⟨matched.1,
            fun reply => induction reply (matched.2 reply)⟩

/-- Matching programs have related results in a common world. -/
theorem Matches.run
    {relation : α → β → Prop}
    {left : Interaction Query Reply α}
    {right : Interaction Query Reply β}
    (matched : Matches relation left right)
    (world : World Query Reply) :
    relation (left.run world) (right.run world) := by
  induction left generalizing right world with
  | done first =>
      cases right with
      | done second => exact matched
      | ask query resume => exact matched.elim
  | ask query resume induction =>
      cases right with
      | done second => exact matched.elim
      | ask rightQuery rightResume =>
          rcases matched with ⟨rfl, continues⟩
          exact induction (world 0 query) (continues _) world.later

/-- Matching programs have the same exchanges in a common world. -/
theorem Matches.transcript
    {relation : α → β → Prop}
    {left : Interaction Query Reply α}
    {right : Interaction Query Reply β}
    (matched : Matches relation left right)
    (world : World Query Reply) :
    left.transcript world = right.transcript world := by
  induction left generalizing right world with
  | done first =>
      cases right with
      | done second => rfl
      | ask query resume => exact matched.elim
  | ask query resume induction =>
      cases right with
      | done second => exact matched.elim
      | ask rightQuery rightResume =>
          rcases matched with ⟨rfl, continues⟩
          exact congrArg ((query, world 0 query) :: ·)
            (induction (world 0 query) (continues _) world.later)

end Interaction

end Pareader.Core
