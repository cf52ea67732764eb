import DbConsole.Proofs.Json.Indented
import DbConsole.Proofs.Json.Layout
import DbConsole.Token.Store

/-!
A store that keeps its token in a document, called again and again. Whatever the document holds beside
the token stays as it is, and the token is the one that was set last; a document in which it has been
forgotten has none.
-/
set_option autoImplicit false

namespace DbConsole

namespace TokenDocument

/-- A document that was written without the member has none when it is read. -/
theorem token?_read_write {members : Dict Json} (absent : member ∉ members.keys) :
    token? (read (some (write members))) = none := by
  suffices none : (read (some (write members))).get? member = none by rw [token?, none]
  rw [read, Option.map_some]
  split
  case h_1 fields parsed =>
    have parsed : Json.parse (Json.object members.entries).pretty = .ok (.object fields) :=
      Option.some.inj parsed
    refine Dict.get?_eq_none fun mem => absent ?_
    have among := Dict.keys_ofList_subset _ mem
    rw [Json.names_canonicalFields] at among
    exact Json.names_subset_of_parse parsed among
  case h_2 => rfl

variable {members : Dict Json} {text : Option String}

/-- The members of the object that the text is parsed to, and none where there is no text or where it
is that of no object. -/
def Holds (text : Option String) (members : Dict Json) : Prop :=
  (∃ t, text = some t ∧ Json.parse t = .ok (.object members.entries)) ∨
    members = .empty ∧ ∀ t fields, text = some t → Json.parse t ≠ .ok (.object fields)

/-- The document is read back as it is written. -/
def Sound (members : Dict Json) : Prop :=
  ∀ p ∈ members.entries, p.2.fits = true ∧ p.2.nesting < Json.Reader.maxDepth ∧ p.2.Ordered

theorem entries_read {t : String} {fields : List (String × Json)}
    (parsed : Json.parse t = .ok (.object fields)) : (read (some t)).entries = fields := by
  obtain ⟨-, ascending, ordered⟩ := Json.readable_of_parse parsed
  rw [read, Option.map_some, parsed]
  exact (Dict.entries_ofList _).trans
    ((congrArg sortPairs (Json.canonicalFields_of_ordered fields ordered)).trans
      (sortPairs_of_ascending ascending))

theorem holds_read (text : Option String) : Holds text (read text) := by
  by_cases object : ∃ t fields, text = some t ∧ Json.parse t = .ok (.object fields)
  · obtain ⟨t, fields, rfl, parsed⟩ := object
    exact .inl ⟨t, rfl, by rw [entries_read parsed, parsed]⟩
  · refine .inr ⟨?_, fun t fields same parsed => object ⟨t, fields, same, parsed⟩⟩
    cases text with
    | none => rfl
    | some t =>
      rw [read, Option.map_some]
      split
      case h_1 fields parsed =>
        exact absurd ⟨t, fields, rfl, Option.some.inj parsed⟩ object
      case h_2 => rfl

theorem Holds.read_eq (holds : Holds text members) : read text = members := by
  rcases holds with ⟨t, rfl, parsed⟩ | ⟨rfl, none⟩
  · exact Dict.eq_of_entries (entries_read parsed)
  · rcases holds_read text with ⟨t, same, parsed⟩ | ⟨empty, -⟩
    · exact absurd parsed (none t _ same)
    · exact empty

namespace Sound

theorem empty : Sound .empty :=
  fun _ mem => absurd mem List.not_mem_nil

/-- A document that has been read is sound if 64 bits hold its numbers. -/
theorem of_holds (holds : Holds text members) (fits : ∀ p ∈ members.entries, p.2.fits = true) :
    Sound members := by
  rcases holds with ⟨t, -, parsed⟩ | ⟨rfl, -⟩
  · obtain ⟨shallow, -, ordered⟩ := Json.readable_of_parse parsed
    have nested := Json.nestingFields_le_iff.mp (Nat.le_of_succ_le_succ shallow)
    have ordered := Json.orderedFields_iff.mp ordered
    exact fun p mem => ⟨fits p mem, Nat.lt_succ_of_le (nested p mem), ordered p mem⟩
  · exact .empty

theorem parse_write (sound : Sound members) :
    Json.parse (write members) = .ok (.object members.entries) := by
  refine Json.parse_pretty (Json.fitsFields_iff.mpr fun p mem => (sound p mem).1) ?_
    ⟨members.ascending, Json.orderedFields_iff.mpr fun p mem => (sound p mem).2.2⟩
  exact Nat.succ_le_succ
    (Json.nestingFields_le_iff.mpr fun p mem => Nat.le_of_lt_succ (sound p mem).2.1)

theorem withToken (sound : Sound members) (token : String) : Sound (withToken members token) := by
  intro p mem
  rcases mem_insertSorted mem with rfl | old
  · exact ⟨rfl, Nat.succ_pos _, trivial⟩
  · exact sound p old

theorem erase (sound : Sound members) (name : String) : Sound (members.erase name) :=
  fun p mem => sound p (List.mem_of_mem_filter mem)

end Sound

/-- A token that is kept as the member is told, but for the empty text. -/
theorem token?_of_get? {token : Option String} (held : members.get? member = token.map .string) :
    token? members = token.filter (· ≠ "") := by
  rw [token?, held]
  cases token with
  | none => rfl
  | some t => by_cases empty : t = "" <;> simp [Option.filter, empty]

end TokenDocument

namespace TokenStore

theorem exists_save {disk : Disk} {path : FilePath} {ms : Dict Json} {s : TokenStore}
    (saved : save disk path ms = .ok s) : ∃ disk', s = .document disk' path ∧
      disk'.readText? path = some (TokenDocument.write ms) := by
  unfold save at saved
  cases written : disk.save path (TokenDocument.write ms) with
  | error fault =>
    rw [written] at saved
    cases saved
  | ok disk' =>
    rw [written] at saved
    cases saved
    rw [Disk.save] at written
    cases made : disk.makeDirectory path.parts.dropLast with
    | error fault =>
      rw [made] at written
      cases written
    | ok between =>
      rw [made] at written
      exact ⟨disk', rfl, Disk.readText?_of_writeText written⟩

theorem get?_of_clear {s s' : TokenStore} (cleared : s.clear = .ok s') : s'.get? = none := by
  cases s with
  | memory token =>
    cases cleared
    rfl
  | document disk path =>
    rw [clear] at cleared
    split at cleared
    · obtain ⟨disk', rfl, text⟩ := exists_save cleared
      rw [get?, members, text]
      exact TokenDocument.token?_read_write (Dict.not_mem_keys_erase _ _)
    · rename_i lacks
      cases cleared
      have none : (members disk path).get? TokenDocument.member = none := by
        refine Dict.get?_eq_none fun mem => lacks ?_
        obtain ⟨p, found, same⟩ := List.mem_map.mp mem
        exact List.any_eq_true.mpr ⟨p, found, beq_iff_eq.mpr same⟩
      rw [get?, TokenDocument.token?, none]

/-! ### Calls -/

/-- What can be asked of a store. -/
inductive Call where
  | get
  | set (token : String)
  | clear
  deriving DecidableEq

/-- What a store says to a call. -/
inductive Response where
  | token (token : Option String)
  | done
  | failed (error : Error)
  deriving DecidableEq

def Response.succeeded : Response → Bool
  | .failed _ => false
  | _ => true

/-- A store that fails stays as it was. -/
def settle (s : TokenStore) : Except Error TokenStore → TokenStore × Response
  | .ok s' => (s', .done)
  | .error e => (s, .failed e)

def call (s : TokenStore) : Call → TokenStore × Response
  | .get => (s, .token s.get?)
  | .set token => s.settle (s.set token)
  | .clear => s.settle s.clear

/-- The store behind the calls. -/
def behind (s : TokenStore) (calls : List Call) : TokenStore :=
  calls.foldl (fun s c => (s.call c).1) s

/-- What the store says to the calls, one after the other. -/
def replies (s : TokenStore) : List Call → List Response
  | [] => []
  | c :: rest => (s.call c).2 :: (s.call c).1.replies rest

/-- The store can do all that it is told. -/
def Succeeds (s : TokenStore) (calls : List Call) : Prop :=
  ∀ r ∈ s.replies calls, r.succeeded = true

/-- What is the token when the call has been made: none behind a clear. A look makes no difference. -/
def Call.leaves? : Call → Option (Option String)
  | .get => none
  | .set token => some (some token)
  | .clear => some none

/-- What the last of the calls that makes a difference has left to be the token. -/
def latest? (calls : List Call) : Option (Option String) :=
  (calls.filterMap Call.leaves?).getLast?

/-- What the call makes of the members of a document. -/
def Call.edit (members : Dict Json) : Call → Dict Json
  | .get => members
  | .set token => TokenDocument.withToken members token
  | .clear => members.erase TokenDocument.member

/-- Whether the call has the document written. -/
def Call.writes (members : Dict Json) : Call → Bool
  | .get => false
  | .set _ => true
  | .clear => members.contains TokenDocument.member

/-- Whether one of the calls has the document written. -/
def wrote (members : Dict Json) : List Call → Bool
  | [] => false
  | c :: rest => c.writes members || wrote (c.edit members) rest

/-- The file's text is parsed to the object with the members. -/
def Parses (disk : Disk) (path : FilePath) (members : Dict Json) : Prop :=
  ∃ text, disk.readText? path = some text ∧ Json.parse text = .ok (.object members.entries)

section Documents

open TokenDocument

variable {disk : Disk} {path : FilePath} {m : Dict Json}

theorem members_of_parses (parses : Parses disk path m) : members disk path = m := by
  obtain ⟨text, found, parsed⟩ := parses
  rw [members, found]
  exact Dict.eq_of_entries (entries_read parsed)

theorem sound_edit (sound : Sound m) (c : Call) : Sound (c.edit m) := by
  cases c with
  | get => exact sound
  | set token => exact sound.withToken token
  | clear => exact sound.erase member

/-- What a save that succeeds leaves behind. -/
theorem settle_save (s : TokenStore) (sound : Sound m)
    (succeeds : (s.settle (save disk path m)).2.succeeded = true) :
    ∃ disk', (s.settle (save disk path m)).1 = .document disk' path ∧ Parses disk' path m := by
  cases saved : save disk path m with
  | error e =>
    rw [saved] at succeeds
    cases succeeds
  | ok s' =>
    obtain ⟨disk', rfl, text⟩ := exists_save saved
    exact ⟨disk', rfl, _, text, sound.parse_write⟩

/-- A call that writes leaves the edited members in the file, and any other one leaves all as it is. -/
theorem call_document (sound : Sound m) (held : members disk path = m) (c : Call)
    (succeeds : ((document disk path).call c).2.succeeded = true) :
    ∃ disk', ((document disk path).call c).1 = .document disk' path ∧
      if c.writes m then Parses disk' path (c.edit m) else disk' = disk ∧ c.edit m = m := by
  subst held
  cases c with
  | get => exact ⟨disk, rfl, rfl, rfl⟩
  | set token => exact settle_save _ (sound.withToken token) succeeds
  | clear =>
    rw [call, clear] at succeeds ⊢
    by_cases has : (members disk path).contains member = true
    · rw [if_pos has] at succeeds ⊢
      obtain ⟨disk', left, parses⟩ := settle_save _ (sound.erase member) succeeds
      exact ⟨disk', left, (if_pos has).mpr parses⟩
    · rw [if_neg has]
      exact ⟨disk, rfl, (if_neg has).mpr
        ⟨rfl, Dict.erase_of_not_contains (Bool.eq_false_of_not_eq_true has)⟩⟩

/-- What a call makes of the members is what is read behind it. -/
theorem members_call (sound : Sound m) (held : members disk path = m) (c : Call)
    (succeeds : ((document disk path).call c).2.succeeded = true) :
    ∃ disk', ((document disk path).call c).1 = .document disk' path ∧
      members disk' path = c.edit m ∧
      if c.writes m then Parses disk' path (c.edit m) else disk' = disk := by
  obtain ⟨disk', left, kept⟩ := call_document sound held c succeeds
  by_cases writes : c.writes m = true
  · rw [if_pos writes] at kept
    exact ⟨disk', left, members_of_parses kept, (if_pos writes).mpr kept⟩
  · rw [if_neg writes] at kept
    exact ⟨disk', left, by rw [kept.1, held, kept.2], (if_neg writes).mpr kept.1⟩

/-- The file behind calls, by one call after the other. -/
theorem behind_document (calls : List Call) : ∀ {disk : Disk} {m : Dict Json}, Sound m →
    members disk path = m → (document disk path).Succeeds calls →
    ∃ disk', (document disk path).behind calls = .document disk' path ∧
      members disk' path = calls.foldl Call.edit m ∧
      if wrote m calls then Parses disk' path (calls.foldl Call.edit m) else disk' = disk := by
  induction calls with
  | nil => exact fun _ held _ => ⟨_, rfl, held, rfl⟩
  | cons c rest ih =>
    intro disk m sound held succeeds
    obtain ⟨disk₁, first, held₁, kept⟩ := members_call sound held c (succeeds _ (.head _))
    have later : (document disk₁ path).Succeeds rest := by
      intro r mem
      rw [← first] at mem
      exact succeeds r (.tail _ mem)
    obtain ⟨disk', behind, left, written⟩ := ih (sound_edit sound c) held₁ later
    refine ⟨disk', ?_, left, ?_⟩
    · rw [TokenStore.behind, List.foldl_cons, first]
      exact behind
    · rw [wrote, List.foldl_cons]
      by_cases onward : wrote (c.edit m) rest = true
      · rw [if_pos onward] at written
        rw [onward, Bool.or_true, if_pos rfl]
        exact written
      · rw [if_neg onward] at written
        subst written
        rw [Bool.eq_false_of_not_eq_true onward, Bool.or_false]
        -- Nothing has been written since the first call, so the members are those that it has left.
        have same : rest.foldl Call.edit (c.edit m) = c.edit m := left.symm.trans held₁
        rwa [same]

theorem latest?_append (calls : List Call) (c : Call) :
    latest? (calls ++ [c]) = c.leaves?.or (latest? calls) := by
  rw [latest?, latest?, List.filterMap_append, List.getLast?_append]
  cases c <;> rfl

theorem get?_edit (m : Dict Json) (c : Call) :
    (c.edit m).get? member =
      match c.leaves? with
      | some left => left.map Json.string
      | none => m.get? member := by
  cases c with
  | get => rfl
  | set token => exact (Dict.get?_insert ..).trans (if_pos rfl)
  | clear => exact (Dict.get?_erase ..).trans (if_pos rfl)

theorem get?_edit_of_ne {name : String} (other : name ≠ member) (m : Dict Json) (c : Call) :
    (c.edit m).get? name = m.get? name := by
  cases c with
  | get => rfl
  | set token => exact (Dict.get?_insert ..).trans (if_neg other)
  | clear => exact (Dict.get?_erase ..).trans (if_neg other)

/-- The token is what the last call has left. -/
theorem get?_foldl_edit (m : Dict Json) (calls : List Call) : ∀ {left : Option String},
    latest? calls = some left → (calls.foldl Call.edit m).get? member = left.map .string := by
  induction calls using List.reverseRecOn with
  | nil => exact fun none => nomatch none
  | append_singleton calls c ih =>
    intro left last
    rw [latest?_append] at last
    rw [List.foldl_append, List.foldl_cons, List.foldl_nil, get?_edit]
    cases leaves : c.leaves? with
    | none =>
      rw [leaves] at last
      exact ih last
    | some _ =>
      rw [leaves] at last
      cases last
      rfl

theorem get?_foldl_edit_of_ne {name : String} (other : name ≠ member) (calls : List Call) :
    ∀ m : Dict Json, (calls.foldl Call.edit m).get? name = m.get? name := by
  induction calls with
  | nil => exact fun _ => rfl
  | cons c rest ih => exact fun m => (ih (c.edit m)).trans (get?_edit_of_ne other m c)

theorem exists_latest_of_mem {calls : List Call} {c : Call} {left : Option String} (mem : c ∈ calls)
    (leaves : c.leaves? = some left) : ∃ last, latest? calls = some last :=
  Option.isSome_iff_exists.mp (List.getLast?_isSome.mpr
    (List.ne_nil_of_mem (List.mem_filterMap.mpr ⟨c, mem, leaves⟩)))

/-- Only a call that makes a difference has the document written. -/
theorem exists_latest_of_wrote (calls : List Call) : ∀ {m : Dict Json}, wrote m calls = true →
    ∃ last, latest? calls = some last := by
  suffices ∀ {m : Dict Json}, wrote m calls = true → ∃ c ∈ calls, c.leaves?.isSome = true by
    intro m written
    obtain ⟨c, mem, leaves⟩ := this written
    exact exists_latest_of_mem mem (Option.eq_some_of_isSome leaves)
  induction calls with
  | nil => exact fun none => nomatch none
  | cons c rest ih =>
    intro m written
    rcases Bool.or_eq_true_iff.mp written with now | later
    · refine ⟨c, .head _, ?_⟩
      cases c with
      | get => cases now
      | set token => rfl
      | clear => rfl
    · obtain ⟨c', mem, leaves⟩ := ih later
      exact ⟨c', .tail _ mem, leaves⟩

/-- The calls change nothing in the document but its token: once one of them has written, the file's
text is that of the object that was there, with what was set last; and until then the disk is as it was.
A clear that finds no token writes nothing. What was set last is what a store on the file reads, unless
it is empty, and behind a clear it reads none. -/
theorem document_kept (disk : Disk) (path : FilePath) (m : Dict Json) (calls : List Call)
    (holds : Holds (disk.readText? path) m) (fits : ∀ p ∈ m.entries, p.2.fits = true)
    (succeeds : (document disk path).Succeeds calls) :
    ∃ disk', (document disk path).behind calls = .document disk' path ∧
      (if wrote m calls then
        ∃ (text : String) (kept : Dict Json) (left : Option String),
          disk'.readText? path = some text ∧ Json.parse text = .ok (.object kept.entries) ∧
          latest? calls = some left ∧ kept.get? member = left.map .string ∧
          ∀ name ≠ member, kept.get? name = m.get? name
      else disk' = disk) ∧
      ((members disk' path).contains member = false →
        (document disk' path).call .clear = (.document disk' path, .done)) ∧
      ∀ left, latest? calls = some left →
        (document disk' path).get? = left.filter (· ≠ "") := by
  obtain ⟨disk', behind, left, written⟩ :=
    behind_document calls (Sound.of_holds holds fits) holds.read_eq succeeds
  refine ⟨disk', behind, ?_, ?_, ?_⟩
  · by_cases wrote : wrote m calls = true
    · rw [if_pos wrote] at written ⊢
      obtain ⟨text, found, parsed⟩ := written
      obtain ⟨last, latest⟩ := exists_latest_of_wrote calls wrote
      exact ⟨text, _, last, found, parsed, latest, get?_foldl_edit m calls latest,
        fun name other => get?_foldl_edit_of_ne other calls m⟩
    · rw [if_neg wrote] at written ⊢
      exact written
  · intro lacks
    rw [call, clear, lacks]
    rfl
  · intro last latest
    exact token?_of_get? (left ▸ get?_foldl_edit m calls latest)

end Documents

/-- A file with a theme, in which the token is set, cleared and set. -/
theorem document_kept_themed :
    let path : FilePath := ⟨["client.json"], false⟩
    let disk : Disk := ⟨[(path.parts, .file (.text "\x7b\n  \"theme\": \"dark\"\n\x7d") true)]⟩
    let calls := [.set "a", .clear, .get, .set "b\n"]
    (document disk path).Succeeds calls ∧
    ∃ (disk' : Disk) (text : String) (kept : Dict Json),
      (document disk path).behind calls = .document disk' path ∧
      disk'.readText? path = some text ∧ Json.parse text = .ok (.object kept.entries) ∧
      kept.get? TokenDocument.member = some (.string "b\n") ∧
      kept.get? "theme" = some (.string "dark") ∧
      (document disk' path).get? = some "b\n" := by
  intro path disk calls
  let themed : Dict Json := ⟨[("theme", .string "dark")], by simp [Ascending]⟩
  have sound : TokenDocument.Sound themed := by
    intro p mem
    obtain rfl := List.mem_singleton.mp mem
    exact ⟨rfl, by decide, trivial⟩
  have holds : TokenDocument.Holds (disk.readText? path) themed := .inl ⟨_, rfl, sound.parse_write⟩
  have succeeds : (document disk path).Succeeds calls :=
    List.all_eq_true.mp (by decide +kernel : ((document disk path).replies calls).all Response.succeeded)
  obtain ⟨disk', behind, written, -, got⟩ :=
    document_kept disk path themed calls holds (by decide +kernel) succeeds
  rw [if_pos (by decide +kernel)] at written
  obtain ⟨text, kept, left, found, text_parsed, last, token, others⟩ := written
  cases last
  exact ⟨succeeds, disk', text, kept, behind, found, text_parsed, token,
    others "theme" (by decide +kernel), got (some "b\n") rfl⟩

end TokenStore

end DbConsole
