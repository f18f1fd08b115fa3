import Mathlib
import StreamPipeline.Proofs.Gateway.Status

/-! # Results page by page

The pages of a result are fetched along their links. A page that is not ready is fetched again at
its own location, and the pages that came make up the result in their order.
-/

namespace StreamPipeline.Gateway

open Http
open Http.Exchange (Step)
open Client (Asks Leads Followed)

variable {gateway here there : String} {page : Page} {pages : List (String × Page)}

namespace Page

/-- Where paging goes on after a page. -/
inductive GoesOn (gateway here : String) (page : Page) : String → Prop where
  | retry : page.kind = "NOT_READY" → GoesOn gateway here page here
  | link {uri : String} : page.kind ≠ "EOS" → page.kind ≠ "NOT_READY" → page.next = some uri →
      GoesOn gateway here page (gateway ++ uri)

/-- Nothing follows a page that says so, or one without a link. -/
def IsLast (page : Page) : Prop :=
  page.kind = "EOS" ∨ page.kind ≠ "NOT_READY" ∧ page.next = none

theorem following?_eq_some_iff : page.following? gateway here = some there ↔
    page.GoesOn gateway here there := by
  unfold following?
  constructor
  · split
    · exact nofun
    · next hkind =>
      rintro ⟨⟩
      exact .retry hkind
    · next heos hready =>
      intro h
      obtain ⟨uri, huri, rfl⟩ := Option.map_eq_some_iff.mp h
      exact .link heos hready huri
  · rintro (hkind | ⟨heos, hready, huri⟩)
    · rw [hkind]
      rfl
    · split
      · next h => exact absurd h heos
      · next h => exact absurd h hready
      · rw [huri]; rfl

theorem following?_eq_none_iff : page.following? gateway here = none ↔ page.IsLast := by
  unfold following? IsLast
  split
  · next h => simp [h]
  · next h => simp [h]
  · next heos hready =>
    rw [Option.map_eq_none_iff]
    exact ⟨fun h => .inr ⟨hready, h⟩, fun h => (h.resolve_left heos).2⟩

end Page

/-! ### Pages that follow each other -/

/-- Pages that were fetched one after the other, each with its location, and the location that
comes next. -/
inductive Linked (gateway : String) : String → List (String × Page) → String → Prop where
  | nil (here : String) : Linked gateway here [] here
  | cons {here next there : String} {page : Page} {pages : List (String × Page)} :
      page.GoesOn gateway here next → Linked gateway next pages there →
      Linked gateway here ((here, page) :: pages) there

/-- The pages at their locations, as answers. -/
def fetched (pages : List (String × Page)) : List (String × Except RuntimeError Page) :=
  pages.map fun place => (place.1, .ok place.2)

namespace Rows

/-- What pages hold together: the first job that one of them reports, the first header with a
column, and the rows of all of them. -/
def ofPages (pages : List Page) : Rows where
  job := pages.findSome? Page.job
  columns := (pages.find? fun page => !page.results.columns.isEmpty).elim [] (·.results.columns)
  rows := pages.flatMap (·.results.rows)

theorem ofPages_cons (page : Page) (pages : List Page) :
    ofPages (page :: pages) =
      ⟨page.job.or (ofPages pages).job,
        if page.results.columns.isEmpty then (ofPages pages).columns else page.results.columns,
        page.results.rows ++ (ofPages pages).rows⟩ := by
  simp only [ofPages, List.findSome?_cons, List.find?_cons, List.flatMap_cons]
  cases page.job <;> cases page.results.columns.isEmpty <;> rfl

theorem foldl_add (pages : List Page) (r : Rows) :
    pages.foldl (fun r page => r.add page) r =
      ⟨r.job.or (ofPages pages).job,
        if r.columns.isEmpty then (ofPages pages).columns else r.columns,
        r.rows ++ (ofPages pages).rows⟩ := by
  induction pages generalizing r with
  | nil =>
    obtain ⟨job, columns, rows⟩ := r
    cases columns <;> simp [ofPages]
  | cons page pages ih =>
    rw [List.foldl_cons, ih, ofPages_cons, add, Option.or_assoc, List.append_assoc]
    cases h : r.columns.isEmpty
    · simp only [Bool.false_eq_true, if_false, h]
    · rfl

theorem foldl_add_empty (pages : List Page) :
    pages.foldl (fun r page => r.add page) .empty = ofPages pages := by
  rw [foldl_add]
  rfl

end Rows

/-! ### The trail of pages -/

/-- What follows a page, with what the pages so far hold. -/
def rowsStep (gateway : String) (place : String × Rows) (page : Page) : Step (String × Rows) Rows :=
  match page.following? gateway place.1 with
  | some next => .again (next, place.2.add page)
  | none => .stop (place.2.add page)

/-- A page of a trail with its location. -/
def placed (p : (String × Rows) × Page) : String × Page := (p.1.1, p.2)

section Trails

variable {start stop : String × Rows} {trail : List ((String × Rows) × Page)} {r : Rows}

theorem rowsStep_again (h : rowsStep gateway start page = .again stop) :
    page.GoesOn gateway start.1 stop.1 ∧ stop.2 = start.2.add page := by
  unfold rowsStep at h
  cases hf : page.following? gateway start.1 with
  | none => rw [hf] at h; cases h
  | some next =>
    rw [hf] at h
    cases h
    exact ⟨Page.following?_eq_some_iff.mp hf, rfl⟩

theorem rowsStep_of_goesOn (h : page.GoesOn gateway here there) :
    rowsStep gateway (here, r) page = .again (there, r.add page) := by
  simp only [rowsStep, Page.following?_eq_some_iff.mpr h]

theorem rowsStep_stop_iff {total : Rows} :
    rowsStep gateway start page = .stop total ↔ page.IsLast ∧ total = start.2.add page := by
  have hlast : page.following? gateway start.1 = none ↔ page.IsLast := Page.following?_eq_none_iff
  unfold rowsStep
  rw [← hlast]
  cases hf : page.following? gateway start.1 with
  | none => simp [eq_comm]
  | some next => simp

theorem linked_of_leads (h : Leads (rowsStep gateway) start trail stop) :
    Linked gateway start.1 (trail.map placed) stop.1 ∧
      stop.2 = (trail.map Prod.snd).foldl (fun r page => r.add page) start.2 := by
  induction h with
  | refl start => exact ⟨.nil _, rfl⟩
  | cons hn _ ih =>
    obtain ⟨hgoes, hsofar⟩ := rowsStep_again hn
    obtain ⟨hlinked, htotal⟩ := ih
    exact ⟨.cons hgoes hlinked, by rw [htotal, hsofar]; rfl⟩

theorem leads_of_linked (h : Linked gateway here pages there) (r : Rows) :
    ∃ trail, Leads (rowsStep gateway) (here, r) trail
        (there, (pages.map Prod.snd).foldl (fun r page => r.add page) r) ∧
      trail.map placed = pages := by
  induction h generalizing r with
  | nil here => exact ⟨[], .refl _, rfl⟩
  | @cons here next there page pages hgoes _ ih =>
    obtain ⟨trail, hlead, htrail⟩ := ih (r.add page)
    exact ⟨_, .cons (rowsStep_of_goesOn hgoes) hlead, by rw [List.map_cons, htrail]; rfl⟩

end Trails

/-! ### Whole results -/

namespace Session

variable {s : Session} {operation : String} {replies : List Reply}

/-- What fetching a result comes to. Pages follow each other from the first one on, and the next
answer is the last page or an error, or has not come yet. -/
inductive Paged (s : Session) (operation : String) : List Reply → Client.Result Rows → Prop where
  | complete {pages : List (String × Page)} {here : String} {page : Page}
      {requests : List Request} {used : List Reply} (rest : List Reply) :
      Linked s.gateway (s.firstPage operation) pages here → page.IsLast →
      Asks Page.read? (fetched (pages ++ [(here, page)])) requests used →
      Paged s operation (used ++ rest)
        (requests, some (.ok (Rows.ofPages (pages.map Prod.snd ++ [page])), rest))
  | broken {pages : List (String × Page)} {here : String} {e : RuntimeError}
      {requests : List Request} {used : List Reply} (rest : List Reply) :
      Linked s.gateway (s.firstPage operation) pages here →
      Asks Page.read? (fetched pages ++ [(here, .error e)]) requests used →
      Paged s operation (used ++ rest) (requests, some (.error e, rest))
  | waiting {pages : List (String × Page)} {here : String} {request : Request}
      {requests : List Request} {used : List Reply} :
      Linked s.gateway (s.firstPage operation) pages here →
      Asks Page.read? (fetched pages) requests used → requestTo .get here none = .ok request →
      Paged s operation used (requests ++ [request], none)

theorem rows_eq :
    s.rows operation =
      Client.follow Page.read? Prod.fst (rowsStep s.gateway) (s.firstPage operation, .empty) := by
  unfold rows Client.follow
  congr 1
  funext place page
  unfold rowsStep
  cases page.following? s.gateway place.1 <;> rfl

theorem answers_eq_fetched {trail : List ((String × Rows) × Page)} :
    Client.answers Prod.fst trail = fetched (trail.map placed) := by
  simp [Client.answers, fetched, placed]

theorem map_placed_snd (trail : List ((String × Rows) × Page)) :
    (trail.map placed).map Prod.snd = trail.map Prod.snd := by
  simp [placed]

theorem paged_rows (s : Session) (operation : String) (replies : List Reply) :
    Paged s operation replies (s.rows operation replies) := by
  rw [rows_eq]
  have h : Followed Page.read? Prod.fst (rowsStep s.gateway) (s.firstPage operation, Rows.empty)
      replies (Client.follow Page.read? Prod.fst (rowsStep s.gateway)
        (s.firstPage operation, .empty) replies) :=
    Client.followed_follow _ replies
  generalize Client.follow Page.read? Prod.fst (rowsStep s.gateway)
    (s.firstPage operation, .empty) replies = result at h
  cases h with
  | @stopped trail place page total requests used rest hlead hstop ha =>
    obtain ⟨hlinked, hsofar⟩ := linked_of_leads hlead
    obtain ⟨hlast, rfl⟩ := rowsStep_stop_iff.mp hstop
    have htotal : place.2.add page =
        Rows.ofPages ((trail.map placed).map Prod.snd ++ [page]) := by
      rw [map_placed_snd, ← Rows.foldl_add_empty, List.foldl_append, ← hsofar]
      rfl
    rw [htotal]
    refine .complete rest hlinked hlast ?_
    rwa [answers_eq_fetched, List.map_append] at ha
  | @broken trail place e requests used rest hlead ha =>
    rw [answers_eq_fetched] at ha
    exact .broken rest (linked_of_leads hlead).1 ha
  | @waiting trail place request requests used hlead ha hr =>
    rw [answers_eq_fetched] at ha
    exact .waiting (linked_of_leads hlead).1 ha hr

theorem rows_of_paged {result : Client.Result Rows} (h : Paged s operation replies result) :
    s.rows operation replies = result := by
  rw [rows_eq, Client.follow_iff]
  cases h with
  | @complete pages here page requests used rest hlinked hlast ha =>
    obtain ⟨trail, hlead, rfl⟩ := leads_of_linked hlinked .empty
    refine .stopped rest hlead (rowsStep_stop_iff.mpr ⟨hlast, ?_⟩) ?_
    · rw [← Rows.foldl_add_empty, List.foldl_append]
      rfl
    · rwa [answers_eq_fetched, List.map_append]
  | @broken pages here e requests used rest hlinked ha =>
    obtain ⟨trail, hlead, rfl⟩ := leads_of_linked hlinked .empty
    exact .broken rest hlead (by rwa [answers_eq_fetched])
  | @waiting pages here request requests used hlinked ha hr =>
    obtain ⟨trail, hlead, rfl⟩ := leads_of_linked hlinked .empty
    exact .waiting hlead (by rwa [answers_eq_fetched]) hr

/-- The job of a finished insert. -/
def reported (s : Session) (operation : String) : Client JobId := do
  match (← s.rows operation).reportedJob? with
  | some job => return job
  | none => throw (.protocol ("no job id returned for operation " ++ operation))

theorem accepted_eq :
    s.accepted operation = s.finish operation >>= fun _ => s.reported operation :=
  rfl

/-- The columns of a finished description. -/
def described (s : Session) (operation : String) : Client (List Column) := do
  let r ← s.rows operation
  columnsOf r.columns r.rows

/-- What a description comes to: the statement is sent, and its operation is waited for. -/
inductive Describes (s : Session) (view : String) :
    List Reply → Client.Result (List Column) → Prop where
  | started {operation : String} {sent : List Request} {replies rest : List Reply}
      {result : Client.Result (List Column)} :
      s.start ("DESCRIBE " ++ Sql.quoteIdent view) replies = (sent, some (.ok operation, rest)) →
      Awaited s operation (s.described operation) rest result →
      Describes s view replies (sent ++ result.1, result.2)
  | refused {e : RuntimeError} {sent : List Request} {replies rest : List Reply} :
      s.start ("DESCRIBE " ++ Sql.quoteIdent view) replies = (sent, some (.error e, rest)) →
      Describes s view replies (sent, some (.error e, rest))
  | waiting {sent : List Request} {replies : List Reply} :
      s.start ("DESCRIBE " ++ Sql.quoteIdent view) replies = (sent, none) →
      Describes s view replies (sent, none)

theorem describe_eq {view : String} :
    s.describe view = s.start ("DESCRIBE " ++ Sql.quoteIdent view) >>= fun operation =>
      s.finish operation >>= fun _ => s.described operation :=
  rfl

theorem describes_iff {view : String} {result : Client.Result (List Column)} :
    s.describe view replies = result ↔ Describes s view replies result := by
  rw [describe_eq]
  constructor
  · rintro rfl
    rcases hs : s.start ("DESCRIBE " ++ Sql.quoteIdent view) replies with
      ⟨sent, _ | ⟨e | operation, rest⟩⟩
    · rw [Client.bind_waiting hs]
      exact .waiting hs
    · rw [Client.bind_error hs]
      exact .refused hs
    · rw [Client.bind_ok hs]
      exact .started hs (awaited_bind s operation _ rest)
  · rintro (⟨hs, hawaited⟩ | hs | hs)
    · rw [Client.bind_ok hs, bind_of_awaited hawaited]
    · exact Client.bind_error hs
    · exact Client.bind_waiting hs

/-- Pages that are not ready add nothing to the rows if they carry none. -/
theorem rows_of_ready {pages : List Page}
    (h : ∀ page ∈ pages, page.kind = "NOT_READY" → page.results.rows = []) :
    (Rows.ofPages pages).rows =
      (pages.filter fun page => page.kind ≠ "NOT_READY").flatMap (·.results.rows) := by
  induction pages with
  | nil => rfl
  | cons page pages ih =>
    obtain ⟨hpage, hpages⟩ := List.forall_mem_cons.mp h
    rw [Rows.ofPages_cons, ih hpages, List.filter_cons]
    by_cases hready : page.kind = "NOT_READY"
    · simp [hready, hpage hready]
    · simp [hready]

/-- Replies in which a page that is not ready carries no rows. -/
def RowsOnceReady (replies : List Reply) : Prop :=
  ∀ reply ∈ replies, ∀ url page, decoded Page.read? url reply = .ok page →
    page.kind = "NOT_READY" → page.results.rows = []

/-- The result of an operation is fetched page by page and holds the first job and the first header
that a page reports, and the rows of all pages in their order, those that were not ready apart.
Only a status that says that the operation has finished leads to its result. -/
theorem rows_page_by_page (s : Session) (operation : String) (replies : List Reply) :
    (∀ result, s.rows operation replies = result ↔ Paged s operation replies result) ∧
      (RowsOnceReady replies → ∀ r rest, (s.rows operation replies).2 = some (.ok r, rest) →
        ∃ pages used, replies = used ++ rest ∧
          Asks Page.read? (fetched pages) (s.rows operation replies).1 used ∧
          r.rows = ((pages.map Prod.snd).filter fun page => page.kind ≠ "NOT_READY").flatMap
            (·.results.rows)) ∧
      (∀ result, s.accepted operation replies = result ↔
        Awaited s operation (s.reported operation) replies result) ∧
      ∀ view result, s.describe view replies = result ↔ Describes s view replies result := by
  refine ⟨fun result => ⟨?_, rows_of_paged⟩, ?_, fun result => ⟨?_, ?_⟩,
    fun view result => describes_iff⟩
  · rintro rfl
    exact paged_rows s operation replies
  · intro hscript r rest hend
    have h := paged_rows s operation replies
    generalize s.rows operation replies = result at h hend
    cases h with
    | @complete pages here page requests used rest hlinked hlast ha =>
      cases hend
      refine ⟨pages ++ [(here, page)], used, rfl, ha, ?_⟩
      rw [← rows_of_ready fun page hpage => ?_, List.map_append]
      · rfl
      · obtain ⟨place, hplace, rfl⟩ := List.mem_map.mp hpage
        obtain ⟨url, reply, hreply, hread⟩ := ha.exists_decoded (List.mem_map_of_mem hplace)
        exact hscript reply (List.mem_append_left _ hreply) url place.2 hread
    | broken => cases hend
    | waiting => cases hend
  · rintro rfl
    rw [accepted_eq]
    exact awaited_bind s operation _ replies
  · rw [accepted_eq]
    exact bind_of_awaited

theorem rows_page_by_page_retriedPage :
    let s : Session := ⟨"http://localhost:8083", "http://localhost:8081", "s"⟩
    let replies : List Reply :=
      ["\x7b\"resultType\":\"NOT_READY\"\x7d",
        "\x7b\"resultType\":\"PAYLOAD\",\"nextResultUri\":\"/v1/next\"," ++
          "\"results\":\x7b\"data\":[\x7b\"fields\":[\"a\"]\x7d]\x7d\x7d",
        "\x7b\"resultType\":\"EOS\",\"jobID\":\"j\"\x7d"].map (.response 200)
    let r : Rows := ⟨some "j", [], [[.string "a"]]⟩
    RowsOnceReady replies ∧ (s.rows "o" replies).2 = some (.ok r, []) ∧
      ∃ pages used, replies = used ++ [] ∧
        Asks Page.read? (fetched pages) (s.rows "o" replies).1 used ∧
        r.rows = ((pages.map Prod.snd).filter fun page => page.kind ≠ "NOT_READY").flatMap
          (·.results.rows) := by
  intro s replies r
  have hscript : RowsOnceReady replies := by
    intro reply hreply url page hread hready
    simp only [replies, List.map_cons, List.map_nil, List.mem_cons, List.not_mem_nil,
      or_false] at hreply
    rcases hreply with rfl | rfl | rfl
    · obtain rfl : (⟨"NOT_READY", none, none, .empty⟩ : Page) = page :=
        Except.ok.inj (Eq.trans (by cbv) hread)
      rfl
    · obtain rfl : (⟨"PAYLOAD", some "/v1/next", none, ⟨[], r.rows⟩⟩ : Page) = page :=
        Except.ok.inj (Eq.trans (by cbv) hread)
      exact absurd hready (by decide)
    · obtain rfl : (⟨"EOS", none, some "j", .empty⟩ : Page) = page :=
        Except.ok.inj (Eq.trans (by cbv) hread)
      exact absurd hready (by decide)
  have hend : (s.rows "o" replies).2 = some (.ok r, []) := by cbv
  exact ⟨hscript, hend, (rows_page_by_page s "o" replies).2.1 hscript r [] hend⟩

end Session

end StreamPipeline.Gateway
