import DbConsole.Proofs.Http.Target
import DbConsole.Proofs.Number.Digits
import DbConsole.Proofs.Url.FormPairs

/-!
What a request for a page of rows says about the page. Its address carries the pairs of the query and
nothing else, so requests for different pages of a table have different addresses.
-/
set_option autoImplicit false

namespace DbConsole

/-! ### The pairs of a query -/

theorem SortOrder.name_injective {o o' : SortOrder} (same : o.name = o'.name) : o = o' := by
  cases o <;> cases o' <;> first | rfl | exact absurd same (by decide)

namespace PageQuery

theorem lookup_pairs (q : PageQuery) :
    q.pairs.lookup "page" = q.page.map (fun n => toString n.toNat) ∧
      q.pairs.lookup "limit" = q.limit.map (fun n => toString n.toNat) ∧
      q.pairs.lookup "sort" = q.sort ∧
      q.pairs.lookup "order" = q.order.map SortOrder.name := by
  have ⟨page, limit, sort, order⟩ := q
  cases page <;> cases limit <;> cases sort <;> cases order <;> simp [pairs, List.lookup_cons]

/-- Each field stands under a name of its own, so the pairs tell all of them. -/
theorem pairs_injective {q q' : PageQuery} (same : q.pairs = q'.pairs) : q = q' := by
  have numbers : Function.Injective fun n : UInt32 => toString n.toNat := fun m n same =>
    UInt32.toNat_inj.mp (toString_nat_injective same)
  have names : Function.Injective SortOrder.name := fun _ _ => SortOrder.name_injective
  have ⟨page, limit, sort, order⟩ := q.lookup_pairs
  have ⟨page', limit', sort', order'⟩ := q'.lookup_pairs
  rw [same] at page limit sort order
  have samePage := Option.map_injective numbers (page.symm.trans page')
  have sameLimit := Option.map_injective numbers (limit.symm.trans limit')
  have sameSort := sort.symm.trans sort'
  have sameOrder := Option.map_injective names (order.symm.trans order')
  cases q
  cases q'
  simp_all

end PageQuery

/-! ### Addresses that differ in their queries -/

/-- A question mark before the query tells where it begins, so its text is told by that of the URL. -/
theorem Url.query_of_render_eq {u : Url} {query query' : Option String}
    (same : ({ u with query := query } : Url).withoutFragment.render =
      ({ u with query := query' } : Url).withoutFragment.render) : query = query' := by
  have marks : (marked "?" query).toList = (marked "?" query').toList := by
    have chars := congrArg String.toList same
    simp only [render, String.toList_append] at chars
    exact List.append_cancel_left (List.append_cancel_right chars)
  cases query with
  | none =>
    cases query' with
    | none => rfl
    | some text' => simp [marked] at marks
  | some text =>
    cases query' with
    | none => simp [marked] at marks
    | some text' =>
      have texts : text.toList = text'.toList := by simpa [marked] using marks
      rw [String.toList_injective texts]

theorem Url.addPairs_eq (u : Url) (pairs : List (String × String)) :
    u.addPairs pairs = { u with query := (u.addPairs pairs).query } := by
  have ⟨query, same⟩ := exists_addPairs_eq u pairs
  rw [same]

/-- The address without its query is sent as it would be if it had none. -/
theorem Request.sentUrl_eq (r : Request) :
    r.sentUrl = { ({ r with url := { r.url with query := none } } : Request).sentUrl with
      query := r.url.query } := by
  unfold Request.sentUrl
  have known : ({ r with url := { r.url with query := none } } : Request).credentials? =
      r.credentials? := rfl
  rw [known]
  split <;> rfl

namespace Console

variable {c : Console} {table : String} {q : PageQuery}

theorem request?_page (named : Text.isAllBlank table = false) (sound : q.validate = .ok ()) :
    (Addressed.page table q).request? c =
      some (c.request .get ⟨["table", table], q.pairs⟩ none) := by
  rw [Addressed.request?, fetchPage, sound, Addressed.rowsOf_eq table named]
  rfl

/-- A page of rows is asked for just if the table has a name and the query passes its check. -/
theorem request?_page_eq_some_iff {r : Request} : (Addressed.page table q).request? c = some r ↔
    Text.isAllBlank table = false ∧ q.validate = .ok () ∧
      r = c.request .get ⟨["table", table], q.pairs⟩ none := by
  constructor
  · intro asked
    have sound : q.validate = .ok () := Addressed.isSound_of_request? asked
    cases blank : Text.isAllBlank table with
    | true =>
      have none : (Addressed.page table q).request? c = none :=
        Addressed.request?_of_isAllBlank c blank
      rw [none] at asked
      cases asked
    | false =>
      rw [request?_page blank sound] at asked
      exact ⟨rfl, sound, (Option.some.inj asked).symm⟩
  · intro ⟨named, sound, same⟩
    rw [same, request?_page named sound]

/-- What the address of a request is read as, below an address without a query. -/
theorem queryPairs?_sentUrl {method : Method} {e : Endpoint} {body : Option Json}
    (bare : c.base.query.getD "" = "") :
    (c.request method e body).sentUrl.queryPairs? = some e.query := by
  have below : (c.base.extend e.segments).query = c.base.query := by
    unfold Url.extend
    split <;> rfl
  rw [Request.sentUrl_eq, Url.queryPairs?]
  exact Url.queryPairs?_addPairs (below ▸ bare) e.query

/-- Requests to one place have one address only if their queries are written alike. -/
theorem query_of_render_eq {method : Method} {segments : List String} {body : Option Json}
    {pairs pairs' : List (String × String)}
    (same : (c.request method ⟨segments, pairs⟩ body).sentUrl.withoutFragment.render =
      (c.request method ⟨segments, pairs'⟩ body).sentUrl.withoutFragment.render) :
    (c.request method ⟨segments, pairs⟩ body).sentUrl.query =
      (c.request method ⟨segments, pairs'⟩ body).sentUrl.query := by
  have front : ({ c.request method ⟨segments, pairs⟩ body with
      url := { (c.request method ⟨segments, pairs⟩ body).url with query := none } } : Request) =
      { c.request method ⟨segments, pairs'⟩ body with
        url := { (c.request method ⟨segments, pairs'⟩ body).url with query := none } } := by
    simp only [request, Endpoint.url]
    rw [Url.addPairs_eq _ pairs, Url.addPairs_eq _ pairs']
  rw [Request.sentUrl_eq, Request.sentUrl_eq (c.request method ⟨segments, pairs'⟩ body), front] at same ⊢
  exact Url.query_of_render_eq same

/-- Below a base address without a query, the address that a page of rows is asked for under is read
as the pairs of its query, in their order and whatever characters the sort column has. So no two
entries of a table, whose queries differ, are asked for under one address. A page is asked for just
if the table has a name and the query passes its check. -/
theorem page_query_read_back (c : Console) (bare : c.base.query.getD "" = "") (table : String)
    (q : PageQuery) :
    (((Addressed.page table q).request? c).isSome = true ↔
        Text.isAllBlank table = false ∧ q.validate = .ok ()) ∧
      (∀ r, (Addressed.page table q).request? c = some r →
        r.sentUrl.queryPairs? = some q.pairs) ∧
      ∀ q' r r', Key.rows table q ≠ .rows table q' →
        (Addressed.page table q).request? c = some r →
        (Addressed.page table q').request? c = some r' →
        r.sentUrl.withoutFragment.render ≠ r'.sentUrl.withoutFragment.render := by
  refine ⟨?_, fun r asked => ?_, fun q' r r' other asked asked' same => other ?_⟩
  · rw [Option.isSome_iff_exists]
    constructor
    · intro ⟨r, asked⟩
      have ⟨named, sound, _⟩ := request?_page_eq_some_iff.mp asked
      exact ⟨named, sound⟩
    · intro ⟨named, sound⟩
      exact ⟨_, request?_page named sound⟩
  · have ⟨_, _, made⟩ := request?_page_eq_some_iff.mp asked
    rw [made]
    exact queryPairs?_sentUrl bare
  · have ⟨_, _, made⟩ := request?_page_eq_some_iff.mp asked
    have ⟨_, _, made'⟩ := request?_page_eq_some_iff.mp asked'
    rw [made, made'] at same
    have pairs : some q.pairs = some q'.pairs := by
      have read (p : PageQuery) :
          (c.request .get ⟨["table", table], p.pairs⟩ none).sentUrl.queryPairs? = some p.pairs :=
        queryPairs?_sentUrl bare
      have read' := read q'
      have read := read q
      rw [Url.queryPairs?, query_of_render_eq same] at read
      exact read.symm.trans read'
    rw [PageQuery.pairs_injective (Option.some.inj pairs)]

/-- Signs that have a meaning in a query, blanks and letters of any script are read back. -/
theorem oddColumn_read_back :
    ∃ r, (Addressed.page "users" ⟨some 2, none, some "a&page=1+c %23#ü", some .desc⟩).request?
        belowApi = some r ∧
      r.sentUrl.queryPairs? =
        some [("page", "2"), ("sort", "a&page=1+c %23#ü"), ("order", "desc")] := by
  have ⟨asked, read, _⟩ := page_query_read_back belowApi rfl "users"
    ⟨some 2, none, some "a&page=1+c %23#ü", some .desc⟩
  have ⟨r, made⟩ := Option.isSome_iff_exists.mp (asked.mpr ⟨by decide, by rfl⟩)
  exact ⟨r, made, read r made⟩

end Console

end DbConsole
