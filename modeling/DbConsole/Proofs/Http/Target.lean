import DbConsole.Console.Changes
import DbConsole.Proofs.Url.Parsed
import DbConsole.Proofs.Url.Segments

/-!
Where a request about a table or a row goes. Its address names the table and the row below the base
address just if a URL leaves nothing of these names out, and then no other table or row has the same
address.
-/
set_option autoImplicit false

namespace DbConsole

/-- What the task asks at once. -/
def Task.question? {σ Q A α : Type} : Task σ Q A α → σ → Option Q
  | .call question _, s => some (question s)
  | _, _ => none

namespace Url

/-- The path of a base address as it stands before what is added to it. -/
def groundText (base : Url) : List Char :=
  match base.path with
  | .segments list => slashed (ground list)
  | .plain text => text.toList

/-- Below the path of the base address, the texts between the slashes of the URL's path stand for
the segments, one by one. -/
def Names (base u : Url) (segments : List String) : Prop :=
  ∃ below, u.pathText.toList = base.groundText ++ '/' :: below ∧
    (Host.splitOn '/' below).map Text.percentDecode = segments.map bytesOf

theorem slashed_append (front back : List String) :
    slashed (front ++ back) = slashed front ++ slashed back :=
  List.flatMap_append

theorem toList_pathText {u : Url} {list : List String} (hosted : u.Hosted)
    (path : u.path = .segments list) : u.pathText.toList = slashed list := by
  have present : u.host.isNone = false := by
    rw [Hosted] at hosted
    cases host : u.host with
    | none => rw [host] at hosted; cases hosted
    | some h => rfl
  rw [pathText, path]
  simp only [present, Bool.false_and, Bool.false_eq_true, if_false, String.toList_join,
    List.flatMap_map, slashed]
  refine congrArg (fun f => List.flatMap f list) (funext fun segment => ?_)
  rw [String.toList_append]
  rfl

/-- A path below the base path names segments if what is added stands for them. -/
theorem names_iff {base u : Url} {list below : List String} (hosted : u.Hosted)
    (basePath : base.path = .segments list) (path : u.path = .segments (ground list ++ below))
    (some : below ≠ []) (closed : ∀ segment ∈ below, IsClosed segment) (segments : List String) :
    base.Names u segments ↔ below.map decoded = segments.map bytesOf := by
  obtain ⟨first, rest, rfl⟩ := List.exists_cons_of_ne_nil some
  have split : (Host.splitOn '/' (first.toList ++ slashed rest)).map Text.percentDecode =
      (first :: rest).map decoded := by
    rw [splitOn_slashed closed, List.map_map]
    rfl
  have text : u.pathText.toList =
      base.groundText ++ '/' :: (first.toList ++ slashed rest) := by
    rw [toList_pathText hosted path, slashed_append, groundText, basePath]
    rfl
  rw [Names, text, ← split]
  constructor
  · rintro ⟨below, same, names⟩
    rw [List.append_right_inj, List.cons_inj_right] at same
    rwa [same]
  · exact fun names => ⟨_, rfl, names⟩

/-! ### Addresses below a base address -/

theorem extend_eq {base : Url} {list : List String} (path : base.path = .segments list)
    (added : List String) : base.extend added = { base with
      path := .segments (extendPath (isSpecialScheme base.scheme) (isFileScheme base.scheme)
        list added) } := by
  rw [extend, path]

theorem exists_addPairs_eq (u : Url) (pairs : List (String × String)) :
    ∃ query, u.addPairs pairs = { u with query := query } := by
  unfold addPairs
  split
  · exact ⟨u.query, rfl⟩
  · dsimp only
    split <;> exact ⟨_, rfl⟩

/-- What stands behind the path of an address begins with a question mark, if anything does. -/
theorem toList_marked_question (query : Option String) :
    (marked "?" query).toList = [] ∨ ∃ rest, (marked "?" query).toList = '?' :: rest := by
  cases query with
  | none => exact Or.inl rfl
  | some q =>
    rw [marked, String.toList_append]
    exact Or.inr ⟨q.toList, rfl⟩

theorem eq_of_append_question {a b m n : List Char} (closed : '?' ∉ a) (closed' : '?' ∉ b)
    (ends : m = [] ∨ ∃ rest, m = '?' :: rest) (ends' : n = [] ∨ ∃ rest, n = '?' :: rest)
    (same : a ++ m = b ++ n) : a = b := by
  have front (x t : List Char) (without : '?' ∉ x) (ends : t = [] ∨ ∃ rest, t = '?' :: rest) :
      (x ++ t).takeWhile (· != '?') = x := by
    rw [List.takeWhile_append_of_pos fun c member =>
      bne_iff_ne.mpr (ne_of_mem_of_not_mem member without)]
    rcases ends with rfl | ⟨rest, rfl⟩ <;> simp
  rw [← front a m closed ends, same, front b n closed' ends']

theorem notMem_slashed {segments : List String} (closed : ∀ segment ∈ segments, IsClosed segment) :
    '?' ∉ slashed segments := by
  intro member
  obtain ⟨segment, among, within⟩ := List.mem_flatMap.mp member
  rcases List.mem_cons.mp within with same | inside
  · cases same
  · exact (closed segment among).2 inside

/-- The URL with another path and another query. -/
def leading (front : Url) (segments : List String) (query : Option String) : Url :=
  { front with path := .segments segments, query := query }

theorem toList_render_leading {front : Url} (hosted : front.Hosted) (segments : List String)
    (query : Option String) :
    (front.leading segments query).withoutFragment.render.toList =
      (front.scheme ++ ":" ++ front.authority).toList ++
        (slashed segments ++ (marked "?" query).toList) := by
  have path : (front.leading segments query).withoutFragment.pathText.toList = slashed segments :=
    toList_pathText hosted rfl
  rw [← path, render, String.toList_append, String.toList_append, String.toList_append,
    List.append_assoc, List.append_assoc]
  exact congrArg _ (congrArg _ (List.append_nil _))

/-- Below a common path the text of a URL tells which path it has. -/
theorem slashed_eq_of_render_eq {front : Url} (hosted : front.Hosted)
    {ground below below' : List String} {query query' : Option String}
    (closed : ∀ segment ∈ below, IsClosed segment) (closed' : ∀ segment ∈ below', IsClosed segment)
    (same : (front.leading (ground ++ below) query).withoutFragment.render =
      (front.leading (ground ++ below') query').withoutFragment.render) :
    slashed below = slashed below' := by
  have same := congrArg String.toList same
  rw [toList_render_leading hosted, toList_render_leading hosted, List.append_right_inj,
    slashed_append, slashed_append, List.append_assoc, List.append_assoc,
    List.append_right_inj] at same
  exact eq_of_append_question (notMem_slashed closed) (notMem_slashed closed')
    (toList_marked_question _) (toList_marked_question _) same

theorem eq_of_slashed_eq {below below' : List String}
    (closed : ∀ segment ∈ below, IsClosed segment) (closed' : ∀ segment ∈ below', IsClosed segment)
    (same : slashed below = slashed below') : below = below' := by
  cases below with
  | nil => cases below' <;> simp_all [slashed]
  | cons first rest =>
    cases below' with
    | nil => simp [slashed] at same
    | cons first' rest' =>
      have inner : first.toList ++ slashed rest = first'.toList ++ slashed rest' :=
        List.cons_inj_right _ |>.mp same
      have split := congrArg (Host.splitOn '/') inner
      rw [splitOn_slashed closed, splitOn_slashed closed'] at split
      exact (List.map_inj_right fun _ _ => String.toList_injective).mp split

end Url

/-- The address under which a request to an endpoint is sent is the base address, without
credentials if it has any, with another path and another query. -/
theorem exists_sentUrl_eq {c : Console} {list : List String} (path : c.base.path = .segments list) :
    ∃ front : Url, front.host = c.base.host ∧ ∀ method (e : Endpoint) body, ∃ query,
      (c.request method e body).sentUrl = front.leading (Url.extendPath
        (Url.isSpecialScheme c.base.scheme) (Url.isFileScheme c.base.scheme) list e.segments)
        query := by
  let bare : Request := ⟨.get, c.base, none, none, none⟩
  refine ⟨bare.sentUrl, ?_, fun method e body => ?_⟩
  · unfold Request.sentUrl
    split <;> rfl
  · obtain ⟨query, same⟩ := Url.exists_addPairs_eq (c.base.extend e.segments) e.query
    refine ⟨query, ?_⟩
    have url : (c.request method e body).url = c.base.leading (Url.extendPath
        (Url.isSpecialScheme c.base.scheme) (Url.isFileScheme c.base.scheme) list e.segments)
        query := by
      rw [Console.request, Endpoint.url, same, Url.extend_eq path]
      rfl
    have known : (c.request method e body).credentials? = bare.credentials? := by
      unfold Request.credentials?
      rw [url]
      rfl
    rw [Request.sentUrl, Request.sentUrl, known, url]
    split <;> rfl

namespace Console

/-- The requests that are about one table, or about one row of it. -/
inductive Addressed where
  | columns (table : String)
  | indexes (table : String)
  | foreignKeys (table : String)
  | alter (table : String) (change : Alteration)
  | drop (table : String)
  | page (table : String) (query : PageQuery)
  | insert (table : String) (row : Row)
  | update (table : String) (id : RowId) (row : Row)
  | delete (table : String) (id : RowId)

namespace Addressed

def table : Addressed → String
  | .columns table => table
  | .indexes table => table
  | .foreignKeys table => table
  | .alter table _ => table
  | .drop table => table
  | .page table _ => table
  | .insert table _ => table
  | .update table _ _ => table
  | .delete table _ => table

def id? : Addressed → Option RowId
  | .update _ id _ => some id
  | .delete _ id => some id
  | _ => none

/-- The segments of the endpoint, below the base address. -/
def segments : Addressed → List String
  | .columns table => ["schema", "table", table]
  | .indexes table => ["schema", "table", table, "indexes"]
  | .foreignKeys table => ["schema", "table", table, "foreign-keys"]
  | .alter table _ => ["schema", "table", table]
  | .drop table => ["schema", "table", table]
  | .page table _ => ["table", table]
  | .insert table _ => ["table", table]
  | .update table id _ => ["table", table, id.text]
  | .delete table id => ["table", table, id.text]

/-- The request as the console puts it together, if it sends one. -/
def request? (c : Console) : Addressed → Option Request
  | .columns table => (fetchPayload (.columns table)).question? c
  | .indexes table => (fetchPayload (.indexes table)).question? c
  | .foreignKeys table => (fetchPayload (.foreignKeys table)).question? c
  | .alter table change => (sendAlterTable table change).question? c
  | .drop table => (sendDropTable table).question? c
  | .page table query => (fetchPage table query).question? c
  | .insert table row => (sendInsertRow table row).question? c
  | .update table id row => (sendUpdateRow table id row).question? c
  | .delete table id => (sendDeleteRow table id).question? c

/-- What is sent along passes its own check. -/
def IsSound : Addressed → Prop
  | .alter _ change => change.validate = .ok ()
  | .page _ query => query.validate = .ok ()
  | _ => True

/-- A URL leaves nothing of the names out. -/
def IsWhole (op : Addressed) : Prop :=
  Url.IsWhole op.table ∧ ∀ id ∈ op.id?, Url.IsWhole id.text

/-- The requests do the same, be it to something else. -/
inductive IsLike : Addressed → Addressed → Prop
  | columns (t t' : String) : IsLike (.columns t) (.columns t')
  | indexes (t t' : String) : IsLike (.indexes t) (.indexes t')
  | foreignKeys (t t' : String) : IsLike (.foreignKeys t) (.foreignKeys t')
  | alter (t t' : String) (change change' : Alteration) :
      IsLike (.alter t change) (.alter t' change')
  | drop (t t' : String) : IsLike (.drop t) (.drop t')
  | page (t t' : String) (query query' : PageQuery) : IsLike (.page t query) (.page t' query')
  | insert (t t' : String) (row row' : Row) : IsLike (.insert t row) (.insert t' row')
  | update (t t' : String) (id id' : RowId) (row row' : Row) :
      IsLike (.update t id row) (.update t' id' row')
  | delete (t t' : String) (id id' : RowId) : IsLike (.delete t id) (.delete t' id')

variable {op : Addressed}

theorem schemaOf_eq (table : String) (named : Text.isAllBlank table = false) :
    schemaOf table = .ok ⟨["schema", "table", table], []⟩ := by
  rw [schemaOf, tableEndpoint, requireText, named]
  rfl

theorem rowsOf_eq (table : String) (named : Text.isAllBlank table = false) :
    rowsOf table = .ok ⟨["table", table], []⟩ := by
  rw [rowsOf, tableEndpoint, requireText, named]
  rfl

theorem schemaOf_blank (table : String) (blank : Text.isAllBlank table = true) :
    schemaOf table = .error (.invalid (.required "Table name")) := by
  rw [schemaOf, tableEndpoint, requireText, blank]
  rfl

theorem rowsOf_blank (table : String) (blank : Text.isAllBlank table = true) :
    rowsOf table = .error (.invalid (.required "Table name")) := by
  rw [rowsOf, tableEndpoint, requireText, blank]
  rfl

/-- A request about something that has a name is sent, if what it carries passes its check. -/
theorem exists_request? (c : Console) (named : Text.isAllBlank op.table = false)
    (sound : op.IsSound) :
    ∃ method query body, op.request? c = some (c.request method ⟨op.segments, query⟩ body) := by
  cases op with
  | columns table =>
    exact ⟨.get, [], none, by rw [request?, fetchPayload, schemaOf_eq table named]; rfl⟩
  | indexes table =>
    exact ⟨.get, [], none, by rw [request?, fetchPayload, schemaOf_eq table named]; rfl⟩
  | foreignKeys table =>
    exact ⟨.get, [], none, by rw [request?, fetchPayload, schemaOf_eq table named]; rfl⟩
  | alter table change =>
    exact ⟨.put, [], _, by rw [request?, sendAlterTable, sound, schemaOf_eq table named]; rfl⟩
  | drop table =>
    exact ⟨.delete, [], none, by rw [request?, sendDropTable, schemaOf_eq table named]; rfl⟩
  | page table query =>
    exact ⟨.get, query.pairs, none, by rw [request?, fetchPage, sound, rowsOf_eq table named]; rfl⟩
  | insert table row =>
    exact ⟨.post, [], _, by rw [request?, sendInsertRow, rowsOf_eq table named]; rfl⟩
  | update table id row =>
    exact ⟨.put, [], _, by rw [request?, sendUpdateRow, rowsOf_eq table named]; rfl⟩
  | delete table id =>
    exact ⟨.delete, [], none, by rw [request?, sendDeleteRow, rowsOf_eq table named]; rfl⟩

/-- Nothing is sent about something without a name. -/
theorem request?_of_isAllBlank (c : Console) (blank : Text.isAllBlank op.table = true) :
    op.request? c = none := by
  cases op with
  | columns table => rw [request?, fetchPayload, schemaOf_blank table blank]; rfl
  | indexes table => rw [request?, fetchPayload, schemaOf_blank table blank]; rfl
  | foreignKeys table => rw [request?, fetchPayload, schemaOf_blank table blank]; rfl
  | alter table change =>
    rw [request?, sendAlterTable, schemaOf_blank table blank]
    cases change.validate <;> rfl
  | drop table => rw [request?, sendDropTable, schemaOf_blank table blank]; rfl
  | page table query =>
    rw [request?, fetchPage, rowsOf_blank table blank]
    cases query.validate <;> rfl
  | insert table row => rw [request?, sendInsertRow, rowsOf_blank table blank]; rfl
  | update table id row => rw [request?, sendUpdateRow, rowsOf_blank table blank]; rfl
  | delete table id => rw [request?, sendDeleteRow, rowsOf_blank table blank]; rfl

/-- Nothing is sent that does not pass its check. -/
theorem isSound_of_request? {c : Console} {request : Request}
    (sent : op.request? c = some request) : op.IsSound := by
  cases op with
  | alter table change =>
    rw [request?, sendAlterTable] at sent
    rw [IsSound]
    split at sent
    · cases sent
    · assumption
  | page table query =>
    rw [request?, fetchPage] at sent
    rw [IsSound]
    split at sent
    · cases sent
    · assumption
  | _ => trivial

/-- Every request about a table or a row is one to the endpoint of its segments. -/
theorem exists_of_request? {c : Console} {request : Request}
    (sent : op.request? c = some request) :
    ∃ method query body, request = c.request method ⟨op.segments, query⟩ body := by
  cases blank : Text.isAllBlank op.table with
  | true =>
    rw [request?_of_isAllBlank c blank] at sent
    cases sent
  | false =>
    obtain ⟨method, query, body, same⟩ := exists_request? c blank (isSound_of_request? sent)
    exact ⟨method, query, body, Option.some.inj (sent.symm.trans same)⟩

/-- The segments begin with a fixed one, and the names decide whether the others are whole. -/
theorem exists_segments_eq (op : Addressed) :
    ∃ first rest, op.segments = first :: rest ∧ first ≠ "" ∧ Url.IsWhole first ∧
      ((∀ segment ∈ rest, Url.IsWhole segment) ↔ op.IsWhole) := by
  have table : Url.IsWhole "table" := by decide
  have indexes : Url.IsWhole "indexes" := by decide
  have foreignKeys : Url.IsWhole "foreign-keys" := by decide
  cases op
  all_goals
    refine ⟨_, _, rfl, by decide, by decide, ?_⟩
    simp [IsWhole, Addressed.table, id?, table, indexes, foreignKeys]

/-- Requests that do the same have the same segments only if they are about the same. -/
theorem eq_of_segments_eq {op other : Addressed} (like : op.IsLike other)
    (same : op.segments = other.segments) : (op.table, op.id?) = (other.table, other.id?) := by
  have texts (id id' : RowId) (same : id.text = id'.text) : id = id' := by
    rw [RowId.mk.injEq]
    exact same
  cases like with
  | update t t' id id' | delete t t' id id' =>
    simp only [segments, List.cons.injEq] at same
    simp [Addressed.table, id?, same, texts id id' same.2.2.1]
  | _ =>
    simp only [segments, List.cons.injEq] at same
    simp [Addressed.table, id?, same]

end Addressed

/-- Where the requests of one console go: below the base path stand closed segments, and they are
the endpoint's segments just if these are whole. -/
theorem exists_below {address : String} {c : Console} (accepted : baseUrl address = .ok c.base)
    (web : c.base.scheme = "http" ∨ c.base.scheme = "https") :
    ∃ (front : Url) (list : List String), front.Hosted ∧ c.base.path = .segments list ∧
      ∀ (op : Addressed) request, op.request? c = some request → ∃ below query,
        request.sentUrl = front.leading (Url.ground list ++ below) query ∧ below ≠ [] ∧
        (∀ segment ∈ below, Url.IsClosed segment) ∧
        (below.map Url.decoded = op.segments.map Url.bytesOf ↔ op.IsWhole) := by
  have special : Url.isSpecialScheme c.base.scheme = true ∧
      Url.isFileScheme c.base.scheme = false := by
    rcases web with same | same <;> rw [same] <;> decide
  obtain ⟨hosted, list, path⟩ := hosted_of_baseUrl accepted special.1
  obtain ⟨front, host, sent⟩ := exists_sentUrl_eq path
  refine ⟨front, list, by rw [Url.Hosted, host]; exact hosted, path, fun op request put => ?_⟩
  obtain ⟨method, query, body, rfl⟩ := Addressed.exists_of_request? put
  obtain ⟨first, rest, segments, some, whole, all⟩ := op.exists_segments_eq
  obtain ⟨query, leads⟩ := sent method ⟨op.segments, query⟩ body
  obtain ⟨below, many, closed, extended⟩ :=
    Url.exists_extendPath (Url.isSpecialScheme c.base.scheme) list rest whole
  have faithful : below.map Url.decoded = op.segments.map Url.bytesOf ↔ op.IsWhole := by
    rw [segments, ← all, ← Url.decoded_extendPath_iff whole some, extended, List.drop_left]
  rw [← segments] at extended
  rw [special.2, extended] at leads
  exact ⟨below, query, leads, many, closed, faithful⟩

/-- Every request about a table or a row of it that has a name is sent. Below the base path its
address stands for the endpoint's segments, one by one, just if a URL leaves nothing of the names
out; and where it leaves nothing of them out, no request that does the same to another table or row
has the same address. -/
theorem names_iff_isWhole {address : String} {c : Console} (accepted : baseUrl address = .ok c.base)
    (web : c.base.scheme = "http" ∨ c.base.scheme = "https") {op : Addressed}
    (named : Text.isAllBlank op.table = false) (sound : op.IsSound) :
    ∃ request, op.request? c = some request ∧
      (c.base.Names request.sentUrl op.segments ↔ op.IsWhole) ∧
      (op.IsWhole → ∀ other request', op.IsLike other → other.IsWhole →
        other.request? c = some request' →
        request.sentUrl.withoutFragment.render = request'.sentUrl.withoutFragment.render →
        (op.table, op.id?) = (other.table, other.id?)) := by
  obtain ⟨front, list, hosted, path, leads⟩ := exists_below accepted web
  obtain ⟨method, query, body, sent⟩ := Addressed.exists_request? c named sound
  obtain ⟨below, query, target, some, closed, faithful⟩ := leads op _ sent
  refine ⟨_, sent, ?_, fun whole other request' like whole' sent' same => ?_⟩
  · rw [← faithful, target]
    have hosted : (front.leading (Url.ground list ++ below) query).Hosted := hosted
    exact Url.names_iff hosted path rfl some closed op.segments
  · obtain ⟨below', query', target', _, closed', faithful'⟩ := leads other _ sent'
    rw [target, target'] at same
    have below_eq : below = below' :=
      Url.eq_of_slashed_eq closed closed' (Url.slashed_eq_of_render_eq hosted closed closed' same)
    have bytes : op.segments.map Url.bytesOf = other.segments.map Url.bytesOf := by
      rw [← faithful.mpr whole, ← faithful'.mpr whole', below_eq]
    have inner (a b : String) : Url.bytesOf a = Url.bytesOf b → a = b :=
      fun same => Url.bytesOf_injective same
    exact Addressed.eq_of_segments_eq like ((List.map_inj_right inner).mp bytes)

/-- A console with nothing known yet, for a backend below a path. -/
def belowApi : Console where
  base := ⟨"http", "", none, some (.named "db"), none, .segments ["api"], none, none⟩
  timeout := none
  tokens := .memory none
  cache := .empty ⟨0, 0, 0, 0⟩
  session := .initial
  published := []
  probing := false
  workspace := .initial
  collecting := false
  now := 0

theorem eq_ok_of_toOption {ε α : Type} {x : Except ε α} {a : α} (same : x.toOption = some a) :
    x = .ok a := by
  cases x with
  | error e => cases same
  | ok b => exact congrArg _ (Option.some.inj same)

/-- Slashes, percent signs, spaces and letters of any script are kept. -/
theorem delete_of_odd_key_names_it :
    ∃ request, (Addressed.delete "order items" ⟨"a/b%2F ü"⟩).request? belowApi = some request ∧
      belowApi.base.Names request.sentUrl ["table", "order items", "a/b%2F ü"] := by
  have accepted : baseUrl "http://db/api" = .ok belowApi.base :=
    eq_ok_of_toOption (by decide +kernel)
  have named : Text.isAllBlank (Addressed.delete "order items" ⟨"a/b%2F ü"⟩).table = false := by
    decide
  have whole : (Addressed.delete "order items" ⟨"a/b%2F ü"⟩).IsWhole :=
    ⟨by decide, fun id member => by cases member; decide⟩
  obtain ⟨request, sent, faithful, _⟩ := names_iff_isWhole accepted (Or.inl rfl) named trivial
  exact ⟨request, sent, faithful.mpr whole⟩

/-- The text of the address that a request goes to. -/
def Addressed.target? (c : Console) (op : Addressed) : Option String :=
  (op.request? c).map (·.sentUrl.withoutFragment.render)

/-- A key of two dots is left out, so the request is about the whole table; a tab in a name is left
out, so the request is about another table. -/
theorem dots_and_tabs_left_out :
    baseUrl "http://db/api" = .ok belowApi.base ∧
      (Addressed.delete "users" ⟨".."⟩).target? belowApi = some "http://db/api/table/users" ∧
      (Addressed.drop "a\tb").target? belowApi = some "http://db/api/schema/table/ab" ∧
      (Addressed.drop "ab").target? belowApi = some "http://db/api/schema/table/ab" ∧
      ∃ request, (Addressed.delete "users" ⟨".."⟩).request? belowApi = some request ∧
        ¬ belowApi.base.Names request.sentUrl ["table", "users", ".."] := by
  refine ⟨eq_ok_of_toOption (by decide +kernel), by decide +kernel, by decide +kernel,
    by decide +kernel, _, rfl, ?_⟩
  rintro ⟨below, same, names⟩
  let request := belowApi.request .delete ⟨["table", "users", ".."], []⟩ none
  have path : request.sentUrl.pathText.toList =
      "/api".toList ++ '/' :: "table/users".toList := by decide +kernel
  have below_eq : "table/users".toList = below :=
    (List.cons.inj (List.append_cancel_left (path.symm.trans same))).2
  rw [← below_eq] at names
  have short := congrArg List.length names
  exact absurd short (by decide +kernel)

end Console

end DbConsole
