import DocSearch.Proofs.Query.Shape

/-!
# Pages of a list of hits

A query shows a window into the list of its hits: as many as a page holds, behind those of the pages
before. Where the end of a page can be counted in 64 bits, the next page starts there, and the pages
up to it show each hit in front of that end once. Beyond, the window stops where counting does and
never goes back. The page of a query makes no other difference.
-/
namespace DocSearch

/-! ## Where a page starts -/

section
variable {page size : UInt64}

/-- A page ends where all hits of the pages up to it do. -/
theorem pageOffset_add_size (first : 1 ≤ page.toNat)
    (fits : page.toNat * size.toNat ≤ UInt64.size - 1) :
    (pageOffset page size).toNat + size.toNat = page.toNat * size.toNat := by
  obtain ⟨before, counted⟩ : ∃ before, page.toNat = before + 1 := ⟨page.toNat - 1, by omega⟩
  have sum : (before + 1) * size.toNat = before * size.toNat + size.toNat := Nat.succ_mul _ _
  rw [toNat_pageOffset, counted, Nat.add_sub_cancel]
  rw [counted] at fits
  omega

/-- A later page starts no earlier than this one ends. -/
theorem mul_le_pageOffset {later : UInt64} (after : page.toNat < later.toNat)
    (fits : page.toNat * size.toNat ≤ UInt64.size - 1) :
    page.toNat * size.toNat ≤ (pageOffset later size).toNat := by
  have further : page.toNat * size.toNat ≤ (later.toNat - 1) * size.toNat :=
    Nat.mul_le_mul_right _ (by omega)
  rw [toNat_pageOffset]
  omega

/-- The next page starts where this one ends. -/
theorem pageOffset_next {next : UInt64} (first : 1 ≤ page.toNat)
    (successor : next.toNat = page.toNat + 1) (fits : page.toNat * size.toNat ≤ UInt64.size - 1) :
    (pageOffset next size).toNat = (pageOffset page size).toNat + size.toNat := by
  have least := mul_le_pageOffset (by omega : page.toNat < next.toNat) fits
  have most : (pageOffset next size).toNat ≤ (next.toNat - 1) * size.toNat := by
    rw [toNat_pageOffset]
    exact Nat.min_le_left _ _
  rw [successor, Nat.add_sub_cancel] at most
  rw [pageOffset_add_size first fits]
  omega

theorem pageOffset_mono {page' size' : UInt64} (pages : page ≤ page') (sizes : size ≤ size') :
    pageOffset page size ≤ pageOffset page' size' := by
  rw [UInt64.le_iff_toNat_le] at pages sizes
  have product : (page.toNat - 1) * size.toNat ≤ (page'.toNat - 1) * size'.toNat :=
    Nat.mul_le_mul (by omega) sizes
  rw [UInt64.le_iff_toNat_le, toNat_pageOffset, toNat_pageOffset]
  omega

/-- No step on the way wraps around: the start is the one that integers give, up to the limit. -/
theorem pageOffset_eq_int : ((pageOffset page size).toNat : Int) =
    min (max ((page.toNat : Int) - 1) 0 * size.toNat) (UInt64.size - 1 : Nat) := by
  have before : max ((page.toNat : Int) - 1) 0 = (page.toNat - 1 : Nat) := by omega
  rw [before, ← Int.natCast_mul, toNat_pageOffset]
  omega

end

/-- Each place in front of the end of a page is in one of the pages up to it. -/
theorem exists_page_around (size : Nat) {pages place : Nat} (inside : place < pages * size) :
    ∃ page, 1 ≤ page ∧ page ≤ pages ∧ (page - 1) * size ≤ place ∧ place < page * size := by
  induction pages with
  | zero => omega
  | succ pages ih =>
    by_cases earlier : place < pages * size
    · obtain ⟨page, first, upTo, around⟩ := ih earlier
      exact ⟨page, first, by omega, around⟩
    · refine ⟨pages + 1, by omega, Nat.le_refl _, ?_, inside⟩
      rw [Nat.add_sub_cancel]
      omega

/-! ## Documents with a page -/

namespace QueryDocument

/-- The document with the window of a page. -/
def atPage (q : QueryDocument) (page size : UInt64) : QueryDocument :=
  { q with offset := pageOffset page size, size }

@[simp]
theorem offset_atPage (q : QueryDocument) (page size : UInt64) :
    (q.atPage page size).offset = pageOffset page size := rfl

@[simp]
theorem size_atPage (q : QueryDocument) (page size : UInt64) :
    (q.atPage page size).size = size := rfl

/-- The places in the list of hits that the window of a document shows. -/
def Shows (q : QueryDocument) (place : Nat) : Prop :=
  q.offset.toNat ≤ place ∧ place < q.offset.toNat + q.size.toNat

theorem shows_atPage_iff {q : QueryDocument} {page size : UInt64} (first : 1 ≤ page.toNat)
    (fits : page.toNat * size.toNat ≤ UInt64.size - 1) (place : Nat) :
    (q.atPage page size).Shows place ↔
      (page.toNat - 1) * size.toNat ≤ place ∧ place < page.toNat * size.toNat := by
  have ends := pageOffset_add_size first fits
  have split : (page.toNat - 1) * size.toNat + size.toNat = page.toNat * size.toNat := by
    rw [← Nat.succ_mul, Nat.succ_eq_add_one, Nat.sub_add_cancel first]
  unfold Shows
  rw [offset_atPage, size_atPage]
  omega

theorem not_shows_atPage_later {q : QueryDocument} {page later size : UInt64}
    (first : 1 ≤ page.toNat) (after : page.toNat < later.toNat)
    (fits : page.toNat * size.toNat ≤ UInt64.size - 1) (place : Nat) :
    ¬ ((q.atPage page size).Shows place ∧ (q.atPage later size).Shows place) := by
  have ends := pageOffset_add_size first fits
  have starts := mul_le_pageOffset after fits
  unfold Shows
  rw [offset_atPage, size_atPage, offset_atPage]
  omega

theorem exists_atPage_shows (q : QueryDocument) {page size : UInt64}
    (fits : page.toNat * size.toNat ≤ UInt64.size - 1) {place : Nat}
    (inside : place < page.toNat * size.toNat) :
    ∃ earlier : UInt64, 1 ≤ earlier.toNat ∧ earlier.toNat ≤ page.toNat ∧
      (q.atPage earlier size).Shows place := by
  obtain ⟨number, first, upTo, around⟩ := exists_page_around size.toNat inside
  have small : number < UInt64.size := Nat.lt_of_le_of_lt upTo page.toNat_lt_size
  have counted : (UInt64.ofNat number).toNat = number := UInt64.toNat_ofNat_of_lt' small
  have within : number * size.toNat ≤ page.toNat * size.toNat := Nat.mul_le_mul_right _ upTo
  refine ⟨.ofNat number, by omega, by omega, ?_⟩
  apply (shows_atPage_iff (by omega) (by rw [counted]; omega) place).mpr
  rw [counted]
  exact around

theorem lt_of_atPage_shows {q : QueryDocument} {page earlier size : UInt64}
    (fits : page.toNat * size.toNat ≤ UInt64.size - 1) (first : 1 ≤ earlier.toNat)
    (upTo : earlier.toNat ≤ page.toNat) {place : Nat}
    (shown : (q.atPage earlier size).Shows place) : place < page.toNat * size.toNat := by
  have within : earlier.toNat * size.toNat ≤ page.toNat * size.toNat :=
    Nat.mul_le_mul_right _ upTo
  have around := (shows_atPage_iff first (by omega) place).mp shown
  omega

end QueryDocument

/-- The query documents of a family, one for each page and size of a page, cut the list of hits into
pages. -/
structure CutsIntoPages (document : UInt64 → UInt64 → Except QueryError QueryDocument) : Prop where
  /-- Pages differ in their windows only, and no page is refused unless all are. -/
  alike : ∀ page size page' size', document page' size' = (document page size).map
    fun q => { q with offset := pageOffset page' size', size := size' }
  /-- The size is that of the page, and the start is the number of hits on the pages before. -/
  window : ∀ page size q, document page size = .ok q → q.size = size ∧
    (q.offset.toNat : Int) = min (max ((page.toNat : Int) - 1) 0 * size.toNat) (UInt64.size - 1 : Nat)
  /-- The next page starts where this one ends. -/
  adjacent : ∀ page next size q q', document page size = .ok q → document next size = .ok q' →
    1 ≤ page.toNat → next.toNat = page.toNat + 1 → page.toNat * size.toNat ≤ UInt64.size - 1 →
    q'.offset.toNat = q.offset.toNat + q.size.toNat
  /-- No later page shows what this one does. -/
  disjoint : ∀ page later size q q', document page size = .ok q → document later size = .ok q' →
    1 ≤ page.toNat → page.toNat < later.toNat → page.toNat * size.toNat ≤ UInt64.size - 1 →
    ∀ place, ¬ (q.Shows place ∧ q'.Shows place)
  /-- The pages up to this one show all hits in front of its end, and no others. -/
  covers : ∀ page size q, document page size = .ok q → page.toNat * size.toNat ≤ UInt64.size - 1 →
    ∀ place, (∃ earlier q', 1 ≤ earlier.toNat ∧ earlier.toNat ≤ page.toNat ∧
      document earlier size = .ok q' ∧ q'.Shows place) ↔ place < page.toNat * size.toNat
  /-- Later pages and larger ones start no earlier, wherever they are. -/
  monotone : ∀ page size page' size' q q', document page size = .ok q →
    document page' size' = .ok q' → page ≤ page' → size ≤ size' → q.offset ≤ q'.offset

/-- A document whose window alone depends on the page cuts the hits into pages. -/
theorem cutsIntoPages_atPage (compiled : Except QueryError QueryDocument) :
    CutsIntoPages fun page size => compiled.map (·.atPage page size) := by
  cases compiled with
  | error e =>
    have refused : ∀ q, (Except.error e : Except QueryError QueryDocument) ≠ .ok q := nofun
    exact ⟨fun _ _ _ _ => rfl, fun _ _ q here => (refused q here).elim,
      fun _ _ _ q _ here => (refused q here).elim, fun _ _ _ q _ here => (refused q here).elim,
      fun _ _ q here => (refused q here).elim, fun _ _ _ _ q _ here => (refused q here).elim⟩
  | ok r =>
    have built : ∀ page size q, (Except.ok r : Except QueryError QueryDocument).map
        (·.atPage page size) = .ok q → q = r.atPage page size :=
      fun _ _ _ same => (Except.ok.inj same).symm
    constructor
    case alike =>
      intro page size page' size'
      rfl
    case window =>
      intro page size q here
      rw [built page size q here]
      exact ⟨rfl, pageOffset_eq_int⟩
    case adjacent =>
      intro page next size q q' here there first successor fits
      rw [built page size q here, built next size q' there]
      exact pageOffset_next first successor fits
    case disjoint =>
      intro page later size q q' here there first after fits place
      rw [built page size q here, built later size q' there]
      exact QueryDocument.not_shows_atPage_later first after fits place
    case covers =>
      intro page size q _ fits place
      constructor
      · intro shown
        obtain ⟨earlier, q', first, upTo, there, shows⟩ := shown
        rw [built earlier size q' there] at shows
        exact QueryDocument.lt_of_atPage_shows fits first upTo shows
      · intro inside
        obtain ⟨earlier, first, upTo, shows⟩ := r.exists_atPage_shows fits inside
        exact ⟨earlier, _, first, upTo, rfl, shows⟩
    case monotone =>
      intro page size page' size' q q' here there pages sizes
      rw [built page size q here, built page' size' q' there]
      exact pageOffset_mono pages sizes

/-! ## Pages of a query -/

/-- The same search at another page. -/
def SearchOptions.atPage (o : SearchOptions) (page size : UInt64) : SearchOptions :=
  { o with page, pageSize := size }

/-- The same aggregation at another page. -/
def AggregationOptions.atPage (o : AggregationOptions) (page size : UInt64) :
    AggregationOptions :=
  { o with page, pageSize := size }

theorem SearchOptions.compile_atPage (o : SearchOptions) (page size : UInt64) :
    (o.atPage page size).compile = o.compile.map (·.atPage page size) := by
  have filters : (o.atPage page size).filters = o.filters := rfl
  have fuzziness : (o.atPage page size).fuzziness = o.fuzziness := rfl
  rw [compile, compile, filters, fuzziness]
  cases BoolFilter.compile o.fuzziness o.filters <;> rfl

theorem AggregationOptions.compile_atPage (o : AggregationOptions) (page size : UInt64) :
    (o.atPage page size).compile = o.compile.map (·.atPage page size) := by
  have filters : (o.atPage page size).filters = o.filters := rfl
  have grouping : (o.atPage page size).groupBy = o.groupBy := rfl
  have fuzziness : (o.atPage page size).fuzziness = o.fuzziness := rfl
  rw [compile, compile, grouping, filters, fuzziness]
  cases o.groupBy.filter (!·.isEmpty) with
  | none => rfl
  | some field => cases BoolFilter.compile o.fuzziness o.filters <;> rfl

/-- Searches and aggregations cut the list of hits into pages. Options that were read from an object
are at one of these pages, the first or a later one, with at least one hit to it. -/
theorem pages_tile_hits :
    (∀ o : SearchOptions, o.atPage o.page o.pageSize = o ∧
      CutsIntoPages fun page size => (o.atPage page size).compile) ∧
    (∀ o : AggregationOptions, o.atPage o.page o.pageSize = o ∧
      CutsIntoPages fun page size => (o.atPage page size).compile) ∧
    (∀ raw o, SearchOptions.ofRaw raw = .ok o → 1 ≤ o.page.toNat ∧ 1 ≤ o.pageSize.toNat) ∧
    (∀ raw o, AggregationOptions.ofRaw raw = .ok o →
      1 ≤ o.page.toNat ∧ 1 ≤ o.pageSize.toNat) := by
  have counted : ∀ n : UInt64, 0 < n → 1 ≤ n.toNat := by
    intro n above
    rw [UInt64.lt_iff_toNat_lt] at above
    exact above
  refine ⟨?_, ?_, ?_, ?_⟩
  · intro o
    simp only [o.compile_atPage]
    exact ⟨rfl, cutsIntoPages_atPage o.compile⟩
  · intro o
    simp only [o.compile_atPage]
    exact ⟨rfl, cutsIntoPages_atPage o.compile⟩
  · intro raw o read
    obtain ⟨-, -, -, size, page⟩ := (SearchOptions.ofRaw_eq_ok_iff raw o).mp read
    exact ⟨counted _ (RawOptions.pos_of_read page (by decide)),
      counted _ (RawOptions.pos_of_read size (by decide))⟩
  · intro raw o read
    obtain ⟨-, -, -, -, -, size, page⟩ := (AggregationOptions.ofRaw_eq_ok_iff raw o).mp read
    exact ⟨counted _ (RawOptions.pos_of_read page (by decide)),
      counted _ (RawOptions.pos_of_read size (by decide))⟩

/-- The second page of ten. -/
def tenAPage : Json.Members := [("pageSize", .string "10"), ("page", .ofUInt64 2)]

/-- The third page follows the second, and shares no hit with it; page zero is the first, and the
last page of all starts at the limit. -/
theorem tenAPage_tiled :
    ∃ o q q', SearchOptions.ofRaw tenAPage = .ok o ∧ o.compile = .ok q ∧
      (o.atPage 3 10).compile = .ok q' ∧ 1 ≤ o.page.toNat ∧
      q'.offset.toNat = q.offset.toNat + q.size.toNat ∧ ¬ (q.Shows 20 ∧ q'.Shows 20) ∧
      (∃ q'', (o.atPage 0 10).compile = .ok q'' ∧ q''.offset = 0) ∧
      ∃ q'', (o.atPage 0xFFFFFFFFFFFFFFFF 10).compile = .ok q'' ∧
        (q''.offset.toNat : Int) = (UInt64.size - 1 : Nat) := by
  obtain ⟨search, -, read, -⟩ := pages_tile_hits
  let o : SearchOptions := { page := 2, pageSize := 10 }
  have given : SearchOptions.ofRaw tenAPage = .ok o := by decide
  have first := (read tenAPage o given).1
  have cuts := (search o).2
  refine ⟨o, _, _, given, rfl, rfl, first, ?_, ?_, ⟨_, rfl, rfl⟩, _, rfl, ?_⟩
  · exact cuts.adjacent 2 3 10 _ _ rfl rfl first rfl (by decide)
  · exact cuts.disjoint 2 3 10 _ _ rfl rfl first (by decide) (by decide) 20
  · have start := (cuts.window 0xFFFFFFFFFFFFFFFF 10 _ rfl).2
    exact start.trans (by decide)

end DocSearch
