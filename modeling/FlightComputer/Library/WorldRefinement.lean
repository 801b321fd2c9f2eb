import FlightComputer.Library.Dialogues

/-!
# Refinement of worlds

A world refines another one if what happens in it can be told in terms of the other one: its moves
are several moves there or none, and its replies are replies there. The replies need to be only as
long as the operations are performed under a guard. If this is known of a dialogue, every run in the
refining world is one in the refined world that leaves the same dialogue (`World.Refines.exists_run`).

A guard may depend on what has been replied so far. A mode that the replies advance is kept beside
the state of a world (`World.watched`). What holds of a dialogue in the world alone and of its modes
alone holds together (`World.Keeps.watched`).
-/

set_option autoImplicit false

namespace FlightComputer.Library

namespace World

variable {σ τ ι κ μ Op : Type} {Reply : Op → Type} {α : Type}

/-! ## Refinement -/

/-- **One world refines another** as far as operations are performed under the guard. -/
structure Refines (concrete : World σ ι Op Reply) (abstract : World τ κ Op Reply)
    (guard : τ → Op → Prop) (related : σ → τ → Prop) : Prop where
  moved : ∀ {s s' : σ} {label : ι} {t : τ}, related s t → concrete.moves s label s' →
    ∃ t', abstract.Reaches t t' ∧ related s' t'
  replied : ∀ {s s' : σ} {operation : Op} {reply : Reply operation} {t : τ}, related s t →
    guard t operation → concrete.replies s operation reply s' →
    ∃ t', abstract.replies t operation reply t' ∧ related s' t'

section Runs

variable {world : World σ ι Op Reply} {concrete : World σ ι Op Reply} {abstract : World τ κ Op Reply}

/-- Several moves leave the dialogue as it is. -/
theorem Reaches.exists_run {s t : σ} (reaches : world.Reaches s t) (dialogue : Dialogue Op Reply α) :
    ∃ turns, Run world.Step (s, dialogue) turns (t, dialogue) := by
  obtain ⟨labels, run⟩ := reaches
  induction run with
  | refl => exact ⟨[], .refl _⟩
  | tail _ moved ih =>
      obtain ⟨turns, run⟩ := ih
      exact ⟨_, run.tail (.other moved)⟩

/-- **Every run in the refining world is one in the refined world.** -/
theorem Refines.exists_run {guard : τ → Op → Prop} {related : σ → τ → Prop}
    (refines : concrete.Refines abstract guard related) {before : τ → Prop}
    {after : α → τ → Prop} {dialogue rest : Dialogue Op Reply α}
    (holds : abstract.Holds guard before dialogue after) {s s' : σ} {t : τ} (first : related s t)
    (ready : before t) {turns : List (Turn ι Op)}
    (run : Run concrete.Step (s, dialogue) turns (s', rest)) :
    ∃ turns' t', Run abstract.Step (t, dialogue) turns' (t', rest) ∧ related s' t' := by
  have matched : ∃ t', (∃ turns', Run abstract.Step (t, dialogue) turns' (t', rest)) ∧
      related s' t' ∧ abstract.Keeps guard after rest t' := by
    refine run.invariant (I := fun p => ∃ t',
      (∃ turns', Run abstract.Step (t, dialogue) turns' (t', p.2)) ∧ related p.1 t' ∧
        abstract.Keeps guard after p.2 t') ?_ ⟨t, ⟨[], .refl _⟩, first, holds t ready⟩
    rintro p turn q ⟨t', ⟨earlier, run⟩, now, keeps⟩ step
    cases step with
    | other moved =>
        obtain ⟨u, reaches, later⟩ := refines.moved now moved
        obtain ⟨further, run'⟩ := reaches.exists_run _
        refine ⟨u, ⟨_, run.trans run'⟩, later, ?_⟩
        exact run'.invariant (I := fun p => abstract.Keeps guard after p.2 p.1)
          (fun _ _ _ keeps step => keeps.step step) keeps
    | own replied =>
        obtain ⟨u, replied', later⟩ := refines.replied now keeps.guard_of_call replied
        exact ⟨u, ⟨_, run.tail (.own replied')⟩, later, keeps.step (.own replied')⟩
  obtain ⟨t', ⟨turns', run⟩, related, _⟩ := matched
  exact ⟨turns', t', run, related⟩

end Runs

/-! ## Modes -/

/-- A world beside a mode that the replies advance. -/
def watched (world : World σ ι Op Reply) (advance : μ → (operation : Op) → Reply operation → μ) :
    World (σ × μ) ι Op Reply where
  moves s label t := world.moves s.1 label t.1 ∧ t.2 = s.2
  replies s operation reply t :=
    world.replies s.1 operation reply t.1 ∧ t.2 = advance s.2 operation reply

/-- The mode alone, whatever is replied. -/
def modes (advance : μ → (operation : Op) → Reply operation → μ) : World μ Empty Op Reply where
  moves _ never _ := never.elim
  replies mode operation reply mode' := mode' = advance mode operation reply

section Watched

variable {world : World σ ι Op Reply} {advance : μ → (operation : Op) → Reply operation → μ}
  {guard : σ → Op → Prop} {permits : μ → Op → Prop} {after : α → σ → Prop} {last : α → μ → Prop}

/-- The mode changes by nothing but a reply. -/
theorem stable_modes (assertion : μ → Prop) : (modes advance).Stable assertion :=
  fun _ never => never.elim

theorem Reaches.of_watched {s t : σ × μ} (reaches : (world.watched advance).Reaches s t) :
    world.Reaches s.1 t.1 ∧ t.2 = s.2 := by
  obtain ⟨labels, run⟩ := reaches
  induction run with
  | refl => exact ⟨.refl _, rfl⟩
  | tail _ moved ih =>
      obtain ⟨⟨earlier, run⟩, same⟩ := ih
      exact ⟨⟨_, run.tail moved.1⟩, moved.2.trans same⟩

/-- **What holds in a world and what holds of the modes hold together.** -/
theorem Keeps.watched {dialogue : Dialogue Op Reply α} {s : σ} {mode : μ}
    (keeps : world.Keeps guard after dialogue s)
    (keeps' : (modes advance).Keeps permits last dialogue mode) :
    (world.watched advance).Keeps (fun s operation => guard s.1 operation ∧ permits s.2 operation)
      (fun value s => after value s.1 ∧ last value s.2) dialogue (s, mode) := by
  induction dialogue generalizing s mode with
  | done value =>
      rintro ⟨t, mode'⟩ reaches
      obtain ⟨reached, rfl⟩ := reaches.of_watched
      exact ⟨keeps t reached, keeps' _ (.refl _)⟩
  | call operation next ih =>
      rintro ⟨t, mode'⟩ reaches
      obtain ⟨reached, rfl⟩ := reaches.of_watched
      obtain ⟨allowed, later⟩ := keeps t reached
      obtain ⟨allowed', later'⟩ := keeps' _ (.refl _)
      refine ⟨⟨allowed, allowed'⟩, ?_⟩
      rintro reply ⟨u, _⟩ ⟨replied, rfl⟩
      exact ih reply (later reply u replied) (later' reply _ rfl)

theorem Holds.watched {before : σ → Prop} {ready : μ → Prop} {dialogue : Dialogue Op Reply α}
    (holds : world.Holds guard before dialogue after)
    (holds' : (modes advance).Holds permits ready dialogue last) :
    (world.watched advance).Holds (fun s operation => guard s.1 operation ∧ permits s.2 operation)
      (fun s => before s.1 ∧ ready s.2) dialogue
      (fun value s => after value s.1 ∧ last value s.2) :=
  fun s first => (holds s.1 first.1).watched (holds' s.2 first.2)

/-- A run beside a mode is a run. -/
theorem run_of_watched {s t : (σ × μ) × Dialogue Op Reply α} {turns : List (Turn ι Op)}
    (run : Run (world.watched advance).Step s turns t) :
    Run world.Step (s.1.1, s.2) turns (t.1.1, t.2) := by
  induction run with
  | refl => exact .refl _
  | tail _ step ih =>
      cases step with
      | other moved => exact ih.tail (.other moved.1)
      | own replied => exact ih.tail (.own replied.1)

end Watched

end World

end FlightComputer.Library
