import DbConsole.Http.Endpoint

/-!
What a text that is read as a URL gives. A URL of a known scheme has a host, so its path is written
as its segments are.
-/
set_option autoImplicit false

namespace DbConsole

/-- Whatever the computation gives has the property. -/
def Yields {ε α : Type} (holds : α → Prop) (x : Except ε α) : Prop :=
  ∀ a, x = .ok a → holds a

namespace Yields

variable {ε α β : Type} {holds : α → Prop} {also : β → Prop}

theorem pure {a : α} (held : holds a) : Yields holds (.ok a : Except ε α) :=
  fun _ same => Except.ok.inj same ▸ held

theorem error (e : ε) : Yields holds (.error e : Except ε α) :=
  fun _ same => by cases same

theorem bind {x : Except ε α} {f : α → Except ε β} (first : Yields holds x)
    (rest : ∀ a, holds a → Yields also (f a)) : Yields also (x >>= f) := by
  cases x with
  | error e => exact error e
  | ok a => exact rest a (first a rfl)

theorem any (x : Except ε α) : Yields (fun _ => True) x :=
  fun _ _ => trivial

/-- A check that is passed, or ends the computation. -/
theorem guard {c : Prop} [Decidable c] {e : ε} {x : Except ε α} (rest : Yields holds x) :
    Yields holds (if c then (do throw e; x) else x) := by
  split
  · exact error e
  · exact rest

end Yields

namespace Url

/-- The URL has a host. -/
def Hosted (u : Url) : Prop :=
  u.host.isSome = true

theorem yields_hosted_readAuthority (scheme : String) (cs : List Char) :
    Yields Hosted (readAuthority scheme cs) := by
  unfold readAuthority
  dsimp only
  refine .guard ?_
  split
  all_goals
    refine .bind (.any _) fun host _ => ?_
    refine .guard ?_
    refine .bind (.any _) fun port _ => ?_
    refine .guard ?_
    exact .pure rfl

theorem yields_hosted_readBelow (scheme : String) (cs : List Char) :
    Yields Hosted (readBelow scheme cs) := by
  unfold readBelow
  exact .guard (.bind (yields_hosted_readAuthority _ _) fun u hosted => .pure hosted)

theorem yields_hosted_readFile (cs : List Char) : Yields Hosted (readFile cs) := by
  unfold readFile
  dsimp only
  split
  · split
    · split
      · exact .pure rfl
      · refine .bind (.any _) fun host _ => .pure ?_
        split <;> rfl
    · exact .pure rfl
  · exact .pure rfl

/-- A URL of a known scheme has a host. -/
theorem hosted_of_parse {text : String} {u : Url} (read : parse text = .ok u)
    (special : isSpecialScheme u.scheme = true) : Hosted u := by
  unfold parse at read
  split at read
  · unfold readAfterScheme at read
    split at read
    · exact yields_hosted_readFile _ u read
    · split at read
      · exact yields_hosted_readBelow _ _ u read
      · rename_i unknown
        split at read
        · exact yields_hosted_readBelow _ _ u read
        all_goals
          cases read
          exact absurd special unknown
  · cases read

end Url

/-- What is known of a base address that is accepted. -/
theorem hosted_of_baseUrl {text : String} {base : Url} (accepted : baseUrl text = .ok base)
    (special : Url.isSpecialScheme base.scheme = true) :
    base.Hosted ∧ ∃ list, base.path = .segments list := by
  unfold baseUrl at accepted
  split at accepted
  · cases accepted
  · rename_i u read
    split at accepted
    · cases accepted
    · rename_i open_
      cases accepted
      refine ⟨Url.hosted_of_parse read special, ?_⟩
      cases path : base.path with
      | segments list => exact ⟨list, rfl⟩
      | plain text =>
        rw [Url.isPlain, path] at open_
        exact absurd rfl open_

end DbConsole
