import DbConsole.Proofs.Token.Keeping

/-!
A store for the run of the program and a store on disk that are called alike. They reply alike as long as
nobody looks at a token that has been set to the empty text, which a document tells as none.
-/
set_option autoImplicit false

namespace DbConsole.TokenStore

open TokenDocument

variable {s : TokenStore} {disk : Disk} {path : FilePath}

/-! ### What is looked at -/

/-- Somebody looks at the token where it is the empty text, if it is this one at first. -/
def LooksAtEmpty (token : Option String) (calls : List Call) : Prop :=
  ∃ before after, calls = before ++ .get :: after ∧ (latest? before).getD token = some ""

theorem latest?_cons_getD (c : Call) (calls : List Call) (token : Option String) :
    (latest? (c :: calls)).getD token = (latest? calls).getD (c.leaves?.getD token) := by
  rw [latest?, latest?, List.filterMap_cons]
  cases c.leaves? with
  | none => rfl
  | some left =>
    dsimp only [Option.getD_some]
    rw [List.getLast?_cons, Option.getD_some]

theorem looksAtEmpty_cons (token : Option String) (c : Call) (calls : List Call) :
    LooksAtEmpty token (c :: calls) ↔
      (c = .get ∧ token = some "") ∨ LooksAtEmpty (c.leaves?.getD token) calls := by
  constructor
  · rintro ⟨before, after, same, empty⟩
    cases before with
    | nil =>
      obtain ⟨rfl, rfl⟩ := List.cons.inj same
      exact .inl ⟨rfl, empty⟩
    | cons first before =>
      obtain ⟨rfl, rfl⟩ := List.cons.inj same
      exact .inr ⟨before, after, rfl, latest?_cons_getD c before token ▸ empty⟩
  · rintro (⟨rfl, rfl⟩ | ⟨before, after, rfl, empty⟩)
    · exact ⟨[], calls, rfl, rfl⟩
    · exact ⟨c :: before, after, rfl, latest?_cons_getD c before token ▸ empty⟩

theorem not_looksAtEmpty_nil (token : Option String) : ¬ LooksAtEmpty token [] := by
  rintro ⟨before, after, same, -⟩
  cases before <;> cases same

instance decidableLooksAtEmpty : (token : Option String) → (calls : List Call) →
    Decidable (LooksAtEmpty token calls)
  | token, [] => .isFalse (not_looksAtEmpty_nil token)
  | token, c :: calls =>
    have := decidableLooksAtEmpty (c.leaves?.getD token) calls
    decidable_of_iff _ (looksAtEmpty_cons token c calls).symm

/-! ### Replies -/

theorem get?_document {token : Option String}
    (held : (members disk path).get? member = token.map .string) :
    (document disk path).get? = token ↔ token ≠ some "" := by
  rw [get?, token?_of_get? held]
  cases token <;> simp

theorem call_memory (token : Option String) (c : Call) :
    ((memory token).call c).1 = .memory (c.leaves?.getD token) := by
  cases c <;> rfl

theorem reply_document_iff {token : Option String} {c : Call}
    (held : (members disk path).get? member = token.map .string)
    (succeeds : ((document disk path).call c).2.succeeded = true) :
    ((document disk path).call c).2 = ((memory token).call c).2 ↔ ¬ (c = .get ∧ token = some "") := by
  have done {s : TokenStore} {saved : Except Error TokenStore}
      (succeeds : (s.settle saved).2.succeeded = true) : (s.settle saved).2 = .done := by
    cases saved with
    | ok s' => rfl
    | error e => cases succeeds
  cases c with
  | get =>
    refine Iff.trans ⟨fun same => Response.token.inj same, congrArg Response.token⟩ ?_
    exact (get?_document held).trans (by simp)
  | set t => exact iff_of_true (done succeeds) nofun
  | clear => exact iff_of_true (done succeeds) nofun

/-- Both stores reply alike just if nobody looks at an empty token. -/
theorem replies_eq_iff (calls : List Call) : ∀ {disk : Disk} {token : Option String},
    Sound (members disk path) → (members disk path).get? member = token.map .string →
    (document disk path).Succeeds calls →
    ((document disk path).replies calls = (memory token).replies calls ↔
      ¬ LooksAtEmpty token calls) := by
  induction calls with
  | nil => exact fun _ _ _ => iff_of_true rfl (not_looksAtEmpty_nil _)
  | cons c rest ih =>
    intro disk token sound held succeeds
    obtain ⟨disk', left, held', -⟩ := members_call sound rfl c (succeeds _ (.head _))
    have later : (document disk' path).Succeeds rest := by
      intro r mem
      rw [← left] at mem
      exact succeeds r (.tail _ mem)
    have next : (members disk' path).get? member = (c.leaves?.getD token).map .string := by
      rw [held', get?_edit]
      cases c <;> first | exact held | rfl
    have rest := ih (held' ▸ sound_edit sound c) next later
    rw [looksAtEmpty_cons, not_or, ← rest, ← reply_document_iff held (succeeds _ (.head _)),
      replies, replies, left, call_memory, List.cons.injEq]

/-! ### Stores that obey -/

/-- The store can do whatever it is told. -/
def Obeys (s : TokenStore) : Prop :=
  ∀ calls, s.Succeeds calls

/-- The store keeps its token in a document, can write it whenever it is told to, and reads it back as it
was written. -/
def Faithful (s : TokenStore) : Prop :=
  (∃ disk path, s = .document disk path ∧ Sound (members disk path)) ∧ s.Obeys

namespace Faithful

theorem call (faithful : s.Faithful) (c : Call) : (s.call c).1.Faithful := by
  obtain ⟨⟨disk, path, rfl, sound⟩, obeys⟩ := faithful
  obtain ⟨disk', left, held, -⟩ := members_call sound rfl c (obeys [c] _ (.head _))
  exact ⟨⟨disk', path, left, held ▸ sound_edit sound c⟩,
    fun calls r mem => obeys (c :: calls) r (.tail _ mem)⟩

/-- A token that is not empty is stored. -/
theorem set (faithful : s.Faithful) {token : String} (full : token ≠ "") :
    ∃ s', s.set token = .ok s' ∧ s'.Faithful ∧ s'.get? = some token := by
  have behind := faithful.call (.set token)
  obtain ⟨⟨disk, path, rfl, sound⟩, obeys⟩ := faithful
  have succeeds := obeys [.set token] _ (.head _)
  obtain ⟨disk', left, held, -⟩ := members_call sound rfl (.set token) succeeds
  have kept : (members disk' path).get? member = (some token).map .string :=
    held ▸ get?_edit _ (.set token)
  have got : (document disk' path).get? = some token :=
    (get?_document kept).mpr (mt Option.some.inj full)
  rw [TokenStore.call] at succeeds left behind
  cases saved : (document disk path).set token with
  | error e =>
    rw [saved] at succeeds
    cases succeeds
  | ok s' =>
    rw [saved] at left behind
    change s' = _ at left
    exact ⟨s', rfl, behind, left.symm ▸ got⟩

theorem clear (faithful : s.Faithful) : ∃ s', s.clear = .ok s' ∧ s'.Faithful ∧ s'.get? = none := by
  have behind := faithful.call .clear
  have succeeds := faithful.2 [.clear] _ (.head _)
  rw [TokenStore.call] at succeeds behind
  cases cleared : s.clear with
  | error e =>
    rw [cleared] at succeeds
    cases succeeds
  | ok s' =>
    rw [cleared] at behind
    exact ⟨s', rfl, behind, get?_of_clear cleared⟩

/-- A store for the run of the program that holds the same token gets the same one by such a call. -/
theorem call_memory_get? (faithful : s.Faithful) {c : Call} (full : c ≠ .set "") :
    ((memory s.get?).call c).1 = .memory (s.call c).1.get? := by
  rw [call_memory]
  cases c with
  | get => rfl
  | set token =>
    obtain ⟨s', set, -, got⟩ := faithful.set fun same => full (congrArg Call.set same)
    rw [TokenStore.call, set]
    exact congrArg memory got.symm
  | clear =>
    obtain ⟨s', cleared, -, got⟩ := faithful.clear
    rw [TokenStore.call, cleared]
    exact congrArg memory got.symm

end Faithful

/-! ### New files -/

theorem members_of_fresh (fresh : disk.node? path.parts = none) : members disk path = .empty := by
  rw [members, Disk.readText?, fresh]
  rfl

/-- A file of that name in the working directory can be made, or it can be written. -/
def Writable (disk : Disk) (name : String) : Prop :=
  disk.node? [name] = none ∨ ∃ content, disk.node? [name] = some (.file content true)

theorem Writable.save {name : String} (writable : Writable disk name) (ms : Dict Json) :
    ∃ disk', TokenStore.save disk ⟨[name], false⟩ ms = .ok (.document disk' ⟨[name], false⟩) ∧
      Writable disk' name := by
  have made : disk.save ⟨[name], false⟩ (write ms) = disk.writeText ⟨[name], false⟩ (write ms) := rfl
  have written : disk.writeText ⟨[name], false⟩ (write ms) =
      .ok (disk.put [name] (.file (.text (write ms)) true)) := by
    have above : (Disk.above [name]).any disk.isFile = false := rfl
    have there : ((Disk.above [name]).all fun q => (disk.node? q).isSome) = true := rfl
    rw [Disk.writeText, above]
    rcases writable with fresh | ⟨content, file⟩
    · rw [fresh, there]
      rfl
    · rw [file]
      rfl
  refine ⟨disk.put [name] (.file (.text (write ms)) true), ?_, .inr ⟨.text (write ms), ?_⟩⟩
  · rw [TokenStore.save, made, written]
  · exact Disk.node?_put_self _ (List.cons_ne_nil _ _) _

theorem Writable.call {name : String} (writable : Writable disk name) (c : Call) :
    ((document disk ⟨[name], false⟩).call c).2.succeeded = true ∧
      ∃ disk', ((document disk ⟨[name], false⟩).call c).1 = .document disk' ⟨[name], false⟩ ∧
        Writable disk' name := by
  have saves (ms : Dict Json) :
      ((document disk ⟨[name], false⟩).settle (TokenStore.save disk ⟨[name], false⟩ ms)).2.succeeded =
          true ∧
        ∃ disk', ((document disk ⟨[name], false⟩).settle (TokenStore.save disk ⟨[name], false⟩ ms)).1 =
          .document disk' ⟨[name], false⟩ ∧ Writable disk' name := by
    obtain ⟨disk', saved, writable'⟩ := writable.save ms
    rw [saved]
    exact ⟨rfl, disk', rfl, writable'⟩
  cases c with
  | get => exact ⟨rfl, disk, rfl, writable⟩
  | set token => exact saves _
  | clear =>
    rw [TokenStore.call, TokenStore.clear]
    split
    · exact saves _
    · exact ⟨rfl, disk, rfl, writable⟩

theorem Writable.obeys {name : String} (writable : Writable disk name) :
    (document disk ⟨[name], false⟩).Obeys := by
  intro calls
  induction calls generalizing disk with
  | nil => exact fun r mem => nomatch mem
  | cons c rest ih =>
    obtain ⟨succeeds, disk', left, writable'⟩ := writable.call c
    intro r mem
    rcases List.mem_cons.mp mem with rfl | later
    · exact succeeds
    · rw [left] at later
      exact ih writable' r later

end DbConsole.TokenStore
