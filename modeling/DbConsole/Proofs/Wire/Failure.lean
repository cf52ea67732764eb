import DbConsole.Http.Message
import DbConsole.Proofs.Json.Extent
import DbConsole.Proofs.Json.Tracks
import DbConsole.Wire.Listing
import DbConsole.Wire.Schema

/-!
What comes of a failure that the backend reports: its words reach the caller, whatever answer was
wanted, unless data stand beside them that are no such answer.
-/
set_option autoImplicit false

namespace DbConsole

open Json Json.Reader

theorem Json.Fields.readKey_cons (key : String) (shape : Shape) (presence : Presence) (rest : Fields)
    (d : Nat) : (Fields.cons key shape presence rest).readKey d =
      takeField key (presence.read (shape.read d)) (rest.readKey d) := by
  funext k p
  obtain ⟨given, more⟩ := p
  cases given <;> rfl

/-- The message that stands at a place inside an envelope. -/
def Wire.inside (α : Type) [Wire α] (s : Source) : Except Fault α :=
  ((Wire.shape α).read (maxDepth - 1) s).map fun r => Wire.ofValue r.1

namespace Envelope

/-! ### An envelope around anything -/

section Reader

variable {γ : Type}

abbrev dataOf (payload : Reader γ) : Reader (Option γ) :=
  Presence.read payload (.nullable true true)

abbrev errorOf : Reader (Option String) :=
  Presence.read text (.nullable true true)

def takeKey (payload : Reader γ) :
    String → Option Bool × Option (Option γ) × Option (Option String) × Unit →
      Option (Reader (Option Bool × Option (Option γ) × Option (Option String) × Unit)) :=
  takeField "success" truth (takeField "data" (dataOf payload)
    (takeField "error" errorOf fun _ _ => none))

def fill : Option Bool × Option (Option γ) × Option (Option String) × Unit →
    Except String (Bool × Option γ × Option String × Unit) :=
  fillField "success" none (fillField "data" (some none) (fillField "error" (some none) .ok))

def listed (expected : String) (payload : Reader γ) :
    Nat → Reader (Bool × Option γ × Option String × Unit) :=
  listField expected truth none (listField expected (dataOf payload) (some none)
    (listField expected errorOf (some none) fun _ => endList))

def fieldsOf (α : Type) [Wire α] : Fields :=
  .cons "success" .bool .required
    (.cons "data" (Wire.shape α) (.nullable true true)
    (.cons "error" .text (.nullable true true) .nil))

/-- Reads an envelope whose data the given reader reads. -/
def readerOf (payload : Reader γ) : Reader (Bool × Option γ × Option String × Unit) := do
  match ← next with
  | none => failNext .endInValue
  | some '\x7b' => do
    skip
    let p ← fieldLoop (takeKey payload) ((← length) + 1) true (none, none, none, ())
    settle ((fill p).mapError .missingField)
  | some '[' => do
    skip
    listed ((fieldsOf Unit).expected "struct Envelope") payload 0
  | some _ => wrongType "struct Envelope"

variable (α : Type) [Wire α] (depth : Nat)

theorem readKey_eq : (fieldsOf α).readKey depth = takeKey ((Wire.shape α).read depth) :=
  (Fields.readKey_cons _ _ _ _ depth).trans <| congrArg (takeField "success" truth) <|
    (Fields.readKey_cons _ _ _ _ depth).trans <| congrArg (takeField "data" _) <|
      Fields.readKey_cons _ _ _ _ depth

theorem complete_eq : (fieldsOf α).complete = fill := by
  funext p
  obtain ⟨_ | success, _ | data, _ | error, ⟨⟩⟩ := p <;> rfl

theorem readList_eq (expected : String) :
    (fieldsOf α).readList expected depth = listed expected ((Wire.shape α).read depth) :=
  rfl

theorem shape_read :
    (Wire.shape (Envelope α)).read (depth + 1) = readerOf ((Wire.shape α).read depth) := by
  rw [readerOf, ← readKey_eq, ← complete_eq, ← readList_eq]
  rfl

theorem decode_eq (text : String) :
    Wire.decode (Envelope α) text =
      (run (readerOf ((Wire.shape α).read (maxDepth - 1))) text.toList).map Wire.ofValue := by
  rw [← shape_read]
  rfl

end Reader

/-! ### The same envelope around other data -/

section Tracks

variable {γ γ' : Type} {Goes : γ → Except Fault γ' → Prop}

section Payload

variable {payload : Reader γ} {payload' : Reader γ'} (tracks : Tracks Goes payload payload')
include tracks

theorem follows_takeKey :
    Follows (Both (Maybe Same) (Both (Maybe (Maybe Goes)) (Both (Maybe Same) Same)))
      (takeKey payload) (takeKey payload') :=
  .field "success" (.same truth) <| .field "data" (.nullable tracks true true) <|
    .field "error" (.same errorOf) .nothing

theorem tracks_listed (expected : String) (index : Nat) :
    Tracks (Both Same (Both (Maybe Goes) (Both Same Same))) (listed expected payload index)
      (listed expected payload' index) := by
  refine .listField expected (.same truth) ?_ (fun index => ?_) index
  · rintro _ ⟨⟩
  refine .listField expected (.nullable tracks true true) ?_ (fun index => ?_) index
  · rintro _ ⟨⟩
    exact ⟨none, rfl, .none⟩
  refine .listField expected (.same errorOf) ?_ (fun _ => .same endList) index
  · rintro _ ⟨⟩
    exact ⟨none, rfl, rfl⟩

omit tracks in
theorem completes_fill :
    Completes (Both (Maybe Same) (Both (Maybe (Maybe Goes)) (Both (Maybe Same) Same)))
      (Both Same (Both (Maybe Goes) (Both Same Same))) fill fill := by
  refine .field "success" ?_ (.field "data" ?_ (.field "error" ?_ .nothing))
  · rintro _ ⟨⟩
  · rintro _ ⟨⟩
    exact ⟨none, rfl, .none⟩
  · rintro _ ⟨⟩
    exact ⟨none, rfl, rfl⟩

theorem tracks_readerOf :
    Tracks (Both Same (Both (Maybe Goes) (Both Same Same))) (readerOf payload)
      (readerOf payload') := by
  refine .onward fun o => ?_
  split
  case h_1 => exact .of_fails (.failNext _) _
  case h_2 =>
    refine .onward fun _ => .onward fun n => ?_
    refine .bind (tracks_fieldLoop (follows_takeKey tracks) (n + 1) true
      (.both .none (.both .none (.both .none rfl)))) ?_ ?_
    · exact fun p p' goes => completes_fill.tracks_settle .missingField goes
    · exact fun p fault lost s v t read => completes_fill.lost_settle .missingField lost read
  case h_3 => exact .onward fun _ => tracks_listed tracks _ 0
  case h_4 => exact .of_fails (fails_wrongType _) _

end Payload

/-- Only the data can be lost. -/
theorem outcome_eq {success : Bool} {data : Option γ} {error : Option String}
    {o : Except Fault (Bool × Option γ' × Option String × Unit)}
    (goes : Both Same (Both (Maybe Goes) (Both Same Same)) (success, data, error, ()) o) :
    ∃ o', Maybe Goes data o' ∧ o = o'.map fun data' => (success, data', error, ()) := by
  obtain ⟨_, inner, rfl⟩ := goes.of_same
  obtain ⟨o', held, rfl⟩ := inner.of_later_same fun _ => Both.same_same
  refine ⟨o', held, ?_⟩
  cases o' <;> rfl

end Tracks

/-! ### Where the data stand -/

/-- Reads over a document and tells where it begins. -/
def locate (depth : Nat) : Reader Source :=
  fun s => (verbatim depth s).map fun r => (s, r.2)

/-- Where the data of the envelope begin in the text, as the reader of envelopes comes to them;
nowhere if there are none, or a null. -/
def dataAt? (text : String) : Option Source :=
  match run (readerOf (locate (maxDepth - 1))) text.toList with
  | .ok (_, data, _) => data
  | .error _ => none

theorem tracks_locate (depth : Nat) :
    Tracks (fun j o => ∃ s t, (Wire.shape Json).read depth s = .ok (j, t) ∧ o = .ok s)
      ((Wire.shape Json).read depth) (locate depth) := by
  intro s j t read
  refine ⟨.ok s, ⟨s, t, read, rfl⟩, ?_⟩
  change (verbatim depth s).map _ = _ at read
  obtain ⟨r, found, same⟩ := map_eq_ok.mp read
  cases same
  exact map_eq_ok.mpr ⟨r, found, rfl⟩

theorem tracks_typed (α : Type) [Wire α] (depth : Nat) :
    Tracks (fun s o => o = ((Wire.shape α).read depth s).map Prod.fst) (locate depth)
      ((Wire.shape α).read depth) := by
  intro s place t found
  obtain ⟨⟨j, t⟩, taken, same⟩ := map_eq_ok.mp found
  cases same
  refine ⟨_, rfl, ?_⟩
  cases read : (Wire.shape α).read depth s with
  | error fault => rfl
  | ok r =>
    obtain rfl := (Wire.shape α).sameStop_read depth s r.1 r.2 j t read taken
    rfl

section Located

variable {text : String}

/-- The reader of envelopes comes to the data of an envelope that is read. -/
theorem located_of_decode {e : Envelope Json} (decoded : Wire.decode (Envelope Json) text = .ok e) :
    ∃ place,
      run (readerOf (locate (maxDepth - 1))) text.toList = .ok (e.success, place, e.error, ()) ∧
        place.map (Wire.inside Json) = e.data.map .ok := by
  rw [decode_eq] at decoded
  obtain ⟨⟨success, data, error, ⟨⟩⟩, read, rfl⟩ := map_eq_ok.mp decoded
  obtain ⟨o, goes, located⟩ := (tracks_readerOf (tracks_locate _)).run read
  obtain ⟨o', held, rfl⟩ := outcome_eq goes
  cases held with
  | none => exact ⟨none, located, rfl⟩
  | @some j place held =>
    obtain ⟨s, t, read, ⟨⟩⟩ := held
    refine ⟨some place, located, congrArg some ?_⟩
    rw [Wire.inside, read]
    rfl
  | lost held =>
    obtain ⟨s, t, read, ⟨⟩⟩ := held

/-- What an envelope is read as, whatever it is wanted to carry. -/
theorem decode_of_located {success : Bool} {place : Option Source} {error : Option String}
    (located : run (readerOf (locate (maxDepth - 1))) text.toList = .ok (success, place, error, ()))
    (α : Type) [Wire α] :
    Wire.decode (Envelope α) text =
      match place.map (Wire.inside α) with
      | none => .ok ⟨success, none, error⟩
      | some (.ok a) => .ok ⟨success, some a, error⟩
      | some (.error fault) => .error fault := by
  obtain ⟨o, goes, read⟩ := (tracks_readerOf (tracks_typed α _)).run located
  obtain ⟨o', held, rfl⟩ := outcome_eq goes
  rw [decode_eq, read]
  cases held with
  | none => rfl
  | some held =>
    obtain ⟨r, taken, rfl⟩ := map_eq_ok.mp held.symm
    rw [Option.map_some, Wire.inside, taken]
    rfl
  | @lost s fault held =>
    cases taken : (Wire.shape α).read (maxDepth - 1) s with
    | ok r =>
      rw [taken] at held
      cases held
    | error fault' =>
      rw [taken] at held
      cases held
      rw [Option.map_some, Wire.inside, taken]
      rfl

end Located

end Envelope

/-- A failure that the backend reports reaches the caller in the backend's words, whatever the status
and whatever answer was wanted, if the data beside it are missing, null or such an answer. Other data
hide it: the reply then counts as no envelope. -/
theorem Reply.read_of_failure {text e : String} {data : Option Json}
    (reported : Wire.decode (Envelope Json) text = .ok ⟨false, data, some e⟩) :
    (Envelope.dataAt? text).map (Wire.inside Json) = data.map .ok ∧
      ∀ (α : Type) [Wire α] (status : Status) (request : String),
        Reply.read α request (.answered status (some text)) = .error
          (match (Envelope.dataAt? text).map (Wire.inside α) with
          | some (.error fault) =>
            if status.isSuccess then .decode (.answer request fault)
            else .transport (.status request status.text)
          | _ => .rejected e) := by
  obtain ⟨place, located, holds⟩ := Envelope.located_of_decode reported
  have found : Envelope.dataAt? text = place := by
    rw [Envelope.dataAt?, located]
  rw [found]
  refine ⟨holds, fun α _ status request => ?_⟩
  rw [Reply.read, Envelope.decode_of_located located α]
  cases place.map (Wire.inside α) with
  | none => rfl
  | some inside =>
    cases inside with
    | ok a => rfl
    | error fault => exact (apply_ite Except.error _ _ _).symm

theorem Wire.decode_failure {text e : String} {shown : Option String}
    (decoded : (decode (Envelope Json) text).toOption.map
      (fun e => (e.success, e.data.map Json.compact, e.error)) = some (false, shown, some e)) :
    ∃ data, decode (Envelope Json) text = .ok ⟨false, data, some e⟩ ∧ data.map Json.compact = shown := by
  cases read : decode (Envelope Json) text with
  | error fault =>
    rw [read] at decoded
    cases decoded
  | ok envelope =>
    rw [read] at decoded
    obtain ⟨success, data, error⟩ := envelope
    cases decoded
    exact ⟨data, rfl, rfl⟩

def bareFailure : String :=
  "\x7b\"success\":false,\"error\":\"no such table\"\x7d"

theorem Reply.read_of_bareFailure :
    Wire.decode (Envelope Json) bareFailure = .ok ⟨false, none, some "no such table"⟩ ∧
      Reply.read (Listed Table) "GET /schema/tables" (.answered ⟨200⟩ (some bareFailure)) =
        .error (.rejected "no such table") ∧
      Reply.read Receipt "DELETE /table/users/1" (.answered ⟨404⟩ (some bareFailure)) =
        .error (.rejected "no such table") := by
  obtain ⟨data, decoded, shown⟩ := @Wire.decode_failure bareFailure "no such table" none
    (by decide +kernel)
  obtain rfl := Option.map_eq_none_iff.mp shown
  obtain ⟨nowhere, reads⟩ := Reply.read_of_failure decoded
  rw [Option.map_none, Option.map_eq_none_iff] at nowhere
  rw [nowhere] at reads
  exact ⟨decoded, reads _ _ _, reads _ _ _⟩

/-- A failure that carries an empty record where a list of tables is wanted. -/
def emptyFailure : String :=
  "\x7b\"success\":false,\"data\":\x7b\x7d,\"error\":\"no such table\"\x7d"

theorem Reply.read_of_emptyFailure :
    (∃ data, Wire.decode (Envelope Json) emptyFailure = .ok ⟨false, data, some "no such table"⟩) ∧
      (∃ cause, Reply.read (Listed Table) "GET /schema/tables"
        (.answered ⟨200⟩ (some emptyFailure)) = .error (.decode cause)) ∧
      ∃ cause, Reply.read (Listed Table) "GET /schema/tables"
        (.answered ⟨404⟩ (some emptyFailure)) = .error (.transport cause) := by
  obtain ⟨data, decoded, -⟩ := @Wire.decode_failure emptyFailure "no such table" (some "\x7b\x7d")
    (by decide +kernel)
  have hidden : (Wire.decode (Envelope (Listed Table)) emptyFailure).toOption.isNone = true := by
    decide +kernel
  cases read : Wire.decode (Envelope (Listed Table)) emptyFailure with
  | ok envelope =>
    rw [read] at hidden
    cases hidden
  | error fault =>
    refine ⟨⟨data, decoded⟩, ⟨.answer "GET /schema/tables" fault, ?_⟩,
      ⟨.status "GET /schema/tables" (Status.text ⟨404⟩), ?_⟩⟩
    · rw [Reply.read, read]
      exact if_pos (by decide)
    · rw [Reply.read, read]
      exact if_neg (by decide)

end DbConsole
