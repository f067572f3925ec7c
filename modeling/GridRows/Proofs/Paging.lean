import GridRows.Proofs.Serving
import GridRows.Proofs.Sql.Lexer
import GridRows.Proofs.Sql.Template
import Mathlib.Algebra.GroupWithZero.Nat

/-!
# Paging

What is read of a fixed list of rows, page by page.  A statement fetches one row more than its page
holds, and the cut drops it again: for every list and every window the two cancel
(`PageWindow.trim_fetched`).

The main statement is `Source.serves_pages`.  Single pages are slices of the list, consecutive pages
together are its beginning, and a grid that scrolls on while more rows are announced ends with the
list.  The last is an induction on the number of pages that the grid may still ask for, and
`Scroll.Reads` is what every page preserves.
-/

namespace GridRows

/-! ## Windows -/

namespace PageWindow

/-- The rows fetched for a window, cut to its page. -/
lemma trim_fetched {α : Type} (w : PageWindow) (rows : List α) :
    w.trim ((rows.drop w.offset).take w.limit) =
      ⟨rows.extract w.startRow w.endRow, decide (w.endRow < rows.length)⟩ := by
  have htake : ((rows.drop w.offset).take w.limit).take w.pageSize =
      rows.extract w.startRow w.endRow := by
    rw [List.take_take, limit, Nat.min_eq_left (Nat.le_succ _)]
    rfl
  have hmore : w.pageSize < ((rows.drop w.offset).take w.limit).length ↔
      w.endRow < rows.length := by
    have ho := w.ordered
    rw [List.length_take, List.length_drop, limit, offset, pageSize]
    omega
  rw [trim, htake, decide_eq_decide.mpr hmore]

/-- The limit of a window computed in words of 64 bits. -/
def limitWord (w : PageWindow) : UInt64 := UInt64.ofNat w.endRow - UInt64.ofNat w.startRow + 1

/-- No step of it wraps, up to the largest bound that a request can have. -/
lemma toNat_limitWord {w : PageWindow} (h : w.endRow ≤ Int64.maxValue.toInt) :
    w.limitWord.toNat = w.limit := by
  have ho := w.ordered
  have hmax : Int64.maxValue.toInt = 9223372036854775807 := by decide
  have hword {n : Nat} (hn : n ≤ 9223372036854775807) : (UInt64.ofNat n).toNat = n := by
    rw [UInt64.toNat_ofNat']
    omega
  have hend : (UInt64.ofNat w.endRow).toNat = w.endRow := hword (by omega)
  have hstart : (UInt64.ofNat w.startRow).toNat = w.startRow := hword (by omega)
  have hsize : (UInt64.ofNat w.endRow - UInt64.ofNat w.startRow).toNat = w.endRow - w.startRow := by
    rw [UInt64.toNat_sub_of_le _ _ (UInt64.le_iff_toNat_le.mpr (by omega)), hend, hstart]
  have hone : (1 : UInt64).toNat = 1 := rfl
  rw [limitWord, UInt64.toNat_add, hsize, hone, limit, pageSize]
  omega

/-- Bounds that are natural numbers in their order make a window. -/
lemma ofBounds_natCast {a b : Nat} (h : a ≤ b) : ofBounds a b = .ok ⟨a, b, h⟩ := by
  unfold ofBounds
  rw [dif_neg (by omega), dif_neg (by omega)]
  rfl

end PageWindow

namespace Request

/-- The request for another window of rows. -/
def withWindow (r : Request) (startRow endRow : Nat) : Request :=
  { r with startRow := startRow, endRow := endRow }

/-- The window of a request for given bounds has those bounds. -/
lemma window_withWindow (r : Request) {a b : Nat} (h : a ≤ b) :
    (r.withWindow a b).window = .ok ⟨a, b, h⟩ :=
  PageWindow.ofBounds_natCast h

/-- A request stays valid with other bounds. -/
lemma validate_withWindow {r : Request} (valid : r.validate = .ok ()) {a b : Nat} (h : a ≤ b) :
    (r.withWindow a b).validate = .ok () := by
  obtain ⟨ht, hk, hg, hv, -⟩ := validate_eq_ok.mp valid
  exact validate_eq_ok.mpr ⟨ht, hk, hg, hv, _, r.window_withWindow h⟩

/-- The requests for windows of the given sizes, each beginning where the one before it ends. -/
def consecutive (r : Request) (startRow : Nat) : List Nat → List Request
  | [] => []
  | size :: sizes =>
    r.withWindow startRow (startRow + size) :: r.consecutive (startRow + size) sizes

end Request

/-! ## Sources that serve a list -/

/-- Whether a page of the size is within the page cap. -/
def QueryConfig.Allows (c : QueryConfig) (size : Nat) : Prop :=
  c.maxPageSize = 0 ∨ size ≤ c.maxPageSize

/--
The source serves a fixed list of rows: it answers the statement of every plan in time, with those
rows of the list that the limit and the offset of the plan leave.
-/
def Source.Serves (s : Source) (c : QueryConfig) (rows : List Row) : Prop :=
  ∀ (r : Request) (p : Plan) (limit offset : Nat), r.plan = .ok p →
    p.query.limit = some limit → p.query.offset = some offset →
    (s.answer (p.statement s.dialect c.mode)).within c.timeoutMs =
      .ok ((rows.drop offset).take limit)

section Serves

variable {s : Source} {c : QueryConfig} {rows : List Row} {r : Request}

/-- A page is the slice of the list for its window, and more rows are announced if there are any. -/
lemma Source.Serves.page (serves : s.Serves c rows) (valid : r.validate = .ok ()) {a b : Nat}
    (h : a ≤ b) (allowed : c.Allows (b - a)) (sent : List Delivery) :
    ∃ page sent', (s.serve c (r.withWindow a b)).perform sent = (.ok page, sent') ∧
      page.rows = rows.extract a b ∧ page.hasMore = decide (b < rows.length) := by
  have hcap : ¬(0 < c.maxPageSize ∧
      c.maxPageSize < (r.withWindow a b).endRow - (r.withWindow a b).startRow) := by
    have hs : (r.withWindow a b).startRow = a := rfl
    have he : (r.withWindow a b).endRow = b := rfl
    unfold QueryConfig.Allows at allowed
    omega
  obtain ⟨w, hw, haccept, hp⟩ := Request.accept_valid (Request.validate_withWindow valid h) hcap
  cases (r.window_withWindow h).symm.trans hw
  have hanswer := serves _ _ _ _ hp rfl rfl
  have hserve := Source.perform_serve (s := s) sent haccept hp
  rw [Source.outcome_rows hanswer, PageWindow.trim_fetched] at hserve
  exact ⟨_, _, hserve, rfl, rfl⟩

/-- Two consecutive slices are one slice. -/
lemma extract_append_extract {α : Type} (l : List α) (a m n : Nat) :
    l.extract a (a + m) ++ l.extract (a + m) (a + m + n) = l.extract a (a + m + n) := by
  have e : a + m + n - (a + m) = n := Nat.add_sub_cancel_left ..
  have e' : a + m + n - a = m + n := by omega
  simp only [List.extract_eq_take_drop, e, e', Nat.add_sub_cancel_left]
  rw [List.take_add, List.drop_drop]

/-- The pages of consecutive windows make up the slice of the list for all of these. -/
lemma Source.Serves.consecutive (serves : s.Serves c rows) (valid : r.validate = .ok ())
    {sizes : List Nat} (allowed : ∀ size ∈ sizes, c.Allows size) (a : Nat)
    (sent : List Delivery) :
    ∃ pages sent', ((r.consecutive a sizes).mapM (s.serve c)).perform sent = (.ok pages, sent') ∧
      pages.flatMap (·.rows) = rows.extract a (a + sizes.sum) := by
  induction sizes generalizing a sent with
  | nil => exact ⟨[], sent, rfl, by simp⟩
  | cons size sizes ih =>
    obtain ⟨hsize, hsizes⟩ := List.forall_mem_cons.mp allowed
    have hle : a ≤ a + size := Nat.le_add_right a size
    obtain ⟨page, sent₁, hserve, hrows, -⟩ := serves.page valid hle (by simpa using hsize) sent
    obtain ⟨pages, sent₂, hpages, hrest⟩ := ih hsizes (a + size) sent₁
    refine ⟨page :: pages, sent₂, ?_, ?_⟩
    · rw [Request.consecutive, List.mapM_cons, Service.perform_bind, hserve]
      -- the other pages are served after what the first one sent
      show (_ >>= _ : Service _).perform sent₁ = _
      rw [Service.perform_bind, hpages]
      rfl
    · rw [List.flatMap_cons, hrows, hrest, List.sum_cons, extract_append_extract, Nat.add_assoc]

end Serves

/-! ## A source that serves any list -/

/-- The number at the end of a text, whose characters are given from the last on, and the rest. -/
def lastNumber (back : List Char) : Nat × List Char :=
  ((Sql.number? (back.takeWhile Char.isDigit).reverse).getD 0, back.dropWhile Char.isDigit)

/-- The limit and the offset with which a statement ends. -/
def Statement.limitOffset (s : Statement) : Nat × Nat :=
  let (offset, back) := lastNumber s.sql.toList.reverse
  let (limit, _) := lastNumber (back.drop " offset ".length)
  (limit, offset)

/-- A source with a table of one list of rows; of a statement it reads the limit and the offset. -/
def Source.ofRows (d : Sql.Dialect) (rows : List Row) : Source where
  dialect := d
  answer statement :=
    let (limit, offset) := statement.limitOffset
    ⟨0, .ok ((rows.drop offset).take limit)⟩

/-- At the end of a text the number of its last digits is found. -/
lemma lastNumber_toString (n : Nat) {c : Char} (hc : c.isDigit = false) (rest : List Char) :
    lastNumber ((toString n).toList.reverse ++ c :: rest) = (n, c :: rest) := by
  have hd : ∀ d ∈ (toString n).toList.reverse, d.isDigit = true := fun d hd =>
    Sql.isDigit_of_mem_toString (List.mem_reverse.mp hd)
  rw [lastNumber, List.takeWhile_append_of_pos hd, List.dropWhile_append_of_pos hd,
    List.takeWhile_cons_of_neg (by simp [hc]), List.dropWhile_cons_of_neg (by simp [hc]),
    List.append_nil, List.reverse_reverse, Sql.number?_toString]
  rfl

/-- The limit and the offset are found at the end of a statement. -/
lemma Statement.limitOffset_eq {s : Statement} {head : String} {limit offset : Nat}
    (h : s.sql = head ++ " limit " ++ toString limit ++ " offset " ++ toString offset) :
    s.limitOffset = (limit, offset) := by
  have e : s.sql.toList.reverse = (toString offset).toList.reverse ++ ' ' :: ("tesffo ".toList ++
      ((toString limit).toList.reverse ++ ' ' :: ("timil ".toList ++ head.toList.reverse))) := by
    rw [h]
    simp
  have hskip (rest : List Char) :
      (' ' :: ("tesffo ".toList ++ rest)).drop " offset ".length = rest :=
    rfl
  unfold limitOffset
  simp only [e, hskip, lastNumber_toString _ (show ' '.isDigit = false from rfl)]

/-- Such a source serves its list under every configuration. -/
lemma Source.ofRows_serves (d : Sql.Dialect) (c : QueryConfig) (rows : List Row) :
    (ofRows d rows).Serves c rows := by
  intro r p limit offset _ hl ho
  obtain ⟨head, hsql⟩ := Sql.Query.sql_ends d c.mode hl ho
  have hread : (p.statement d c.mode).limitOffset = (limit, offset) :=
    Statement.limitOffset_eq hsql
  rw [ofRows]
  simp only [hread]
  exact Answer.within_in_time (Nat.not_lt_zero _ ·.2)

/-! ## Scrolling -/

/-- Where a grid stands that reads one page after the other. -/
structure Scroll where
  /-- The first row that was not asked for. -/
  next : Nat := 0
  /-- The rows of all pages so far. -/
  rows : List Row := []
  /-- Whether the last page announced no more rows. -/
  finished : Bool := false

namespace Scroll

/-- Asks for the next page of the given size. -/
def step (s : Source) (c : QueryConfig) (r : Request) (size : Nat) (k : Scroll) :
    Service Scroll := do
  let page ← s.serve c (r.withWindow k.next (k.next + size))
  return ⟨k.next + size, k.rows ++ page.rows, !page.hasMore⟩

/--
Asks for one page after the other while more rows are announced, for `n` pages at most.  The size of
a page may depend on all that was read before.
-/
def run (s : Source) (c : QueryConfig) (r : Request) (size : Scroll → Nat) :
    Nat → Scroll → Service Scroll
  | 0, k => return k
  | n + 1, k => if k.finished then return k else do run s c r size n (← k.step s c r (size k))

/-- The grid has read the list up to where it stands, and it is finished beyond the end only. -/
structure Reads (rows : List Row) (k : Scroll) : Prop where
  rows_eq : k.rows = rows.take k.next
  finished : k.finished = true → rows.length ≤ k.next
  unfinished : k.finished = false → k.next ≤ rows.length

variable {s : Source} {c : QueryConfig} {rows : List Row} {r : Request}

/-- A grid that has read nothing has read the first rows of any list. -/
lemma Reads.initial (rows : List Row) : Reads rows {} where
  rows_eq := rfl
  finished := nofun
  unfinished _ := Nat.zero_le _

/-- A page keeps what was read a beginning of the list. -/
lemma Reads.step {k : Scroll} (reads : Reads rows k) (serves : s.Serves c rows)
    (valid : r.validate = .ok ()) {size : Nat} (allowed : c.Allows size) (sent : List Delivery) :
    ∃ k' sent', (k.step s c r size).perform sent = (.ok k', sent') ∧ Reads rows k' ∧
      k'.next = k.next + size := by
  have hle : k.next ≤ k.next + size := Nat.le_add_right _ _
  obtain ⟨page, sent', hserve, hrows, hmore⟩ :=
    serves.page valid hle (by simpa using allowed) sent
  refine ⟨⟨k.next + size, k.rows ++ page.rows, !page.hasMore⟩, sent', ?_, ?_, rfl⟩
  · rw [Scroll.step, Service.perform_bind, hserve]
    rfl
  · constructor
    · show k.rows ++ page.rows = rows.take (k.next + size)
      rw [reads.rows_eq, hrows, List.take_add, List.extract_eq_take_drop, Nat.add_sub_cancel_left]
    · intro h
      simpa [hmore] using h
    · intro h
      have h : k.next + size < rows.length := by simpa [hmore] using h
      exact Nat.le_of_lt h

/-- With a page for each row to come and one more, scrolling comes to the end. -/
lemma Reads.run {k : Scroll} (reads : Reads rows k) (serves : s.Serves c rows)
    (valid : r.validate = .ok ()) {size : Scroll → Nat}
    (allowed : ∀ k, 0 < size k ∧ c.Allows (size k)) {n : Nat} (hn : rows.length < k.next + n)
    (sent : List Delivery) :
    ∃ k' sent', (Scroll.run s c r size n k).perform sent = (.ok k', sent') ∧ Reads rows k' ∧
      k'.finished = true := by
  induction n generalizing k sent with
  | zero =>
    -- no page is left to ask for, so the grid already stands beyond the end
    refine ⟨k, sent, rfl, reads, ?_⟩
    cases hf : k.finished with
    | true => rfl
    | false => exact absurd (reads.unfinished hf) (Nat.not_le.mpr hn)
  | succ n ih =>
    cases hf : k.finished with
    | true => exact ⟨k, sent, by rw [Scroll.run, if_pos hf]; rfl, reads, hf⟩
    | false =>
      obtain ⟨hpos, hallowed⟩ := allowed k
      obtain ⟨k₁, sent₁, hstep, reads₁, hnext⟩ := reads.step serves valid hallowed sent
      obtain ⟨k₂, sent₂, hrun, reads₂, hf₂⟩ := ih reads₁ (by omega) sent₁
      refine ⟨k₂, sent₂, ?_, reads₂, hf₂⟩
      rw [Scroll.run, if_neg (by rw [hf]; exact Bool.false_ne_true), Service.perform_bind, hstep]
      exact hrun

end Scroll

/--
What is read of a source that serves a fixed list, for a valid request in windows within the page
cap.  A page is the slice of the list for its window, more rows are announced exactly if the list
goes on after it, and its limit fits a word.  The pages of consecutive windows from the first row on
are the beginning of the list.  A grid that asks for the next window, of any size but zero, while
more rows are announced is finished after at most one page more than there are rows, and has them
all.
-/
theorem Source.serves_pages {s : Source} {c : QueryConfig} {rows : List Row} {r : Request}
    (serves : s.Serves c rows) (valid : r.validate = .ok ()) (sent : List Delivery) :
    (∀ a b, a ≤ b → c.Allows (b - a) →
      ∃ w page sent', (r.withWindow a b).window = .ok w ∧
        (s.serve c (r.withWindow a b)).perform sent = (.ok page, sent') ∧
        page.rows = rows.extract a b ∧ (page.hasMore = true ↔ b < rows.length) ∧
        w.limit = b - a + 1 ∧ (b ≤ Int64.maxValue.toInt → w.limitWord.toNat = w.limit)) ∧
    (∀ sizes : List Nat, (∀ size ∈ sizes, c.Allows size) →
      ∃ pages sent', ((r.consecutive 0 sizes).mapM (s.serve c)).perform sent = (.ok pages, sent') ∧
        pages.flatMap (·.rows) = rows.take sizes.sum) ∧
    ∀ size : Scroll → Nat, (∀ k, 0 < size k ∧ c.Allows (size k)) → ∀ n, rows.length < n →
      ∃ k sent', (Scroll.run s c r size n {}).perform sent = (.ok k, sent') ∧
        k.finished = true ∧ k.rows = rows := by
  refine ⟨?_, ?_, ?_⟩
  · intro a b h allowed
    obtain ⟨page, sent', hserve, hrows, hmore⟩ := serves.page valid h allowed sent
    refine ⟨⟨a, b, h⟩, page, sent', r.window_withWindow h, hserve, hrows, ?_, rfl, ?_⟩
    · rw [hmore, decide_eq_true_iff]
    · exact PageWindow.toNat_limitWord (w := ⟨a, b, h⟩)
  · intro sizes allowed
    obtain ⟨pages, sent', hserve, hrows⟩ := serves.consecutive valid allowed 0 sent
    refine ⟨pages, sent', hserve, ?_⟩
    rw [hrows, List.extract_eq_take_drop, List.drop_zero, Nat.zero_add, Nat.sub_zero]
  · intro size allowed n hn
    obtain ⟨k, sent', hrun, reads, hf⟩ :=
      (Scroll.Reads.initial rows).run serves valid allowed (by simpa using hn) sent
    refine ⟨k, sent', hrun, hf, ?_⟩
    rw [reads.rows_eq, List.take_of_length_le (reads.finished hf)]

/-- Rows that hold their places in the list. -/
def numberedRows (n : Nat) : List Row :=
  (List.range n).map fun i => [("place", .string (toString i))]

/-- Five rows, read one first and then two at a time; and the last window a request can have. -/
theorem Source.serves_pages_numbered :
    (ofRows .postgres (numberedRows 5)).Serves { maxPageSize := 2 } (numberedRows 5) ∧
    (Request.medals "it's" "50%" 3 9).validate = .ok () ∧
    (∃ page sent', ((ofRows .postgres (numberedRows 5)).serve { maxPageSize := 2 }
        ((Request.medals "it's" "50%" 3 9).withWindow
          9223372036854775805 9223372036854775807)).perform [] = (.ok page, sent') ∧
      page.rows = [] ∧ ¬page.hasMore = true) ∧
    ∃ k sent', (Scroll.run (ofRows .postgres (numberedRows 5)) { maxPageSize := 2 }
        (Request.medals "it's" "50%" 3 9) (fun k => if k.next = 0 then 1 else 2) 6 {}).perform [] =
          (.ok k, sent') ∧ k.finished = true ∧ k.rows = numberedRows 5 := by
  have hs := ofRows_serves .postgres { maxPageSize := 2 } (numberedRows 5)
  have hv : (Request.medals "it's" "50%" 3 9).validate = .ok () := rfl
  obtain ⟨hpage, -, hscroll⟩ := serves_pages hs hv []
  refine ⟨hs, hv, ?_, ?_⟩
  · obtain ⟨_, page, sent', -, hserve, hrows, hmore, -⟩ :=
      hpage 9223372036854775805 9223372036854775807 (by decide) (.inr (by decide))
    refine ⟨page, sent', hserve, hrows.trans ?_, ?_⟩
    · exact List.take_eq_nil_iff.mpr (.inr (List.drop_eq_nil_of_le (by decide)))
    · rw [hmore]
      decide
  · refine hscroll (fun k => if k.next = 0 then 1 else 2) (fun k => ?_) 6 (by decide)
    split
    · exact ⟨by decide, .inr (by decide)⟩
    · exact ⟨by decide, .inr (by decide)⟩

end GridRows
