import DbConsole.Proofs.Console.Deeds
import DbConsole.Proofs.Console.Reading

/-!
What the work on the session does to the cache. It leaves the cache alone, except that what opens
and closes a session may clear it before it ends, with nothing to be done to the cache afterwards.
-/
set_option autoImplicit false

namespace DbConsole.Console

variable {α β : Type}

/-- The task leaves the cache alone. -/
def Spares (t : ConsoleTask α) : Prop :=
  t.Within fun c c' => c'.cache = c.cache

namespace Spares

theorem civil {t : ConsoleTask α} (spares : Spares t) : Civil t :=
  Civil.of_within spares fun _ _ same => ⟨.leave 0, rfl, same⟩

theorem advanceThrough {t : ConsoleTask α} (spares : Spares t) (waits : Nat) (c : Console) :
    (t.advanceThrough waits c).1.cache = c.cache :=
  (Task.Within.advanceThrough spares (fun _ => rfl)
    (fun _ _ _ first second => second.trans first) waits c).1

end Spares

/-- Work on the session leaves the cache alone. -/
theorem Tends.spares {checks : Bool} {t : ConsoleTask α} (tends : Tends checks t) : Spares t := by
  refine tends.mono fun c c' deeds => ?_
  induction deeds with
  | refl => rfl
  | tail _ deed ih => exact deed.cache.trans ih

theorem Spares.landing (reply : Reply) : Spares (Console.landing reply) := by
  have tends : Tends true ((Console.concludeProbe reply.report).bind fun _ =>
      (Task.change fun c : Console => { c with probing := false }).bind fun _ =>
        Task.look Console.session) :=
    (Tends.concludeProbe reply.report).bind fun _ =>
      (Tends.probing false).bind fun _ => Tends.look _
  exact tends.spares.bind fun _ => trivial

/-! ### Clearing -/

/-- The task clears the cache before it ends, and leaves it alone from then on. -/
def Clears : ConsoleTask α → Prop
  | .done _ => False
  | .act update next => (∀ c, Clears (next c)) ∨
      ((∀ c, (update c).cache = c.cache.clear) ∧ ∀ c, Spares (next c))
  | .wait _ next => Clears next
  | .call _ next => ∀ reply, Clears (next reply)
  | .sleep _ next => Clears next

theorem forgotten_clear (key : Key) (c : Cache Payload Unit) : Forgotten key c.clear :=
  ⟨rfl, rfl⟩

namespace Clears

/-- What comes before the clearing does not matter. -/
theorem behind (t : ConsoleTask β) {k : β → ConsoleTask α} (clears : ∀ b, Clears (k b)) :
    Clears (t.bind k) := by
  induction t with
  | done b => exact clears b
  | act update next ih => exact Or.inl ih
  | wait ready next ih => exact ih
  | call question next ih => exact ih
  | sleep time next ih => exact ih

theorem forget (a : α) : Clears (Console.forget.bind fun _ => .done a) :=
  Or.inr ⟨fun _ => rfl, fun _ => ⟨fun _ => rfl, fun _ => trivial⟩⟩

theorem opened (grant : Grant) : Clears (Console.opened true (.ok grant)) :=
  forget none

theorem disconnect : Clears (Action.disconnect true).task := by
  change Clears ((Console.closeSession.bind _).bind _)
  rw [Task.bind_bind]
  exact behind _ fun _ => forget _

/-- A visit either comes before the clearing or leaves nothing that can be served or joined. -/
theorem advanceThrough {t : ConsoleTask α} (clears : Clears t) (waits : Nat) (c : Console) :
    Clears (t.advanceThrough waits c).2 ∨
      ∀ key, Forgotten key (t.advanceThrough waits c).1.cache := by
  refine (Task.advanceBy_keeps
    (fun (c : Console) t => Clears t ∨ (Spares t ∧ ∀ key, Forgotten key c.cache))
    ?_ ?_ (Or.inl clears) _).imp id And.right
  · rintro c update next ((clears | ⟨empties, spares⟩) | ⟨spares, forgotten⟩)
    · exact Or.inl (clears c)
    · refine Or.inr ⟨spares c, fun key => ?_⟩
      rw [empties c]
      exact forgotten_clear key c.cache
    · refine Or.inr ⟨spares.2 c, fun key => ?_⟩
      rw [spares.1 c]
      exact forgotten key
  · exact fun _ _ _ held => held

end Clears

/-! ### Every action -/

theorem Civil.forget : Civil Console.forget :=
  ⟨fun _ => ⟨.clear, rfl, rfl⟩, fun _ => ⟨fun _ => ⟨.leave 0, rfl, rfl⟩, fun _ => trivial⟩⟩

theorem Civil.composes : Composes fun _ t => Civil t where
  done _ := trivial
  bind := Civil.bind
  tends tends := tends.spares.civil
  stores := Stores.civil
  forget := Civil.forget

/-- Whatever is done with the console brings nothing to the cache by itself. -/
theorem Action.civil (action : Action) : Civil action.task :=
  Civil.composes.task action

end DbConsole.Console
