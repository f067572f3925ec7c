import GridRows.Proofs.Plan
import GridRows.Rows

/-!
# Serving requests

What serving a request sends and answers.  A request that is not accepted sends nothing
(`Source.perform_serve_refused`).  Any other sends the statement of its plan, once, and the answer
is `Source.outcome`: the second compilation, which a failed statement calls for, cannot fail after
the first (`Source.perform_serve`).

The main statement is `Source.serve_outcome`, the answer for each way a statement can end.
-/

namespace GridRows

/-! ## Performing work -/

section Perform

variable {α β : Type} (sent : List Delivery)

/-- Of two steps the second sees what the first has sent, and is left out if the first fails. -/
lemma Service.perform_bind (work : Service α) (next : α → Service β) :
    (work >>= next).perform sent =
      match work.perform sent with
      | (.ok a, sent) => (next a).perform sent
      | (.error e, sent) => (.error e, sent) := by
  unfold perform
  rw [ExceptT.run_bind, StateT.run_bind]
  obtain ⟨result, sent⟩ : Except Error α × List Delivery := work.run.run sent
  cases result <;> rfl

/-- A handler goes on with what the failed work has sent. -/
lemma Service.perform_tryCatch (work : Service α) (handle : Error → Service α) :
    (tryCatch work handle).perform sent =
      match work.perform sent with
      | (.ok a, sent) => (.ok a, sent)
      | (.error e, sent) => (handle e).perform sent := by
  unfold perform
  rw [ExceptT.run_tryCatch, StateT.run_bind]
  obtain ⟨result, sent⟩ : Except Error α × List Delivery := work.run.run sent
  cases result <;> rfl

/-- Executing a statement sends it, whatever the answer is. -/
lemma Source.perform_execute (s : Source) (statement : Statement) (timeoutMs : Nat) :
    (s.execute statement timeoutMs).perform sent =
      ((s.answer statement).within timeoutMs, sent ++ [⟨s, statement⟩]) := by
  unfold execute
  cases (s.answer statement).within timeoutMs <;> rfl

end Perform

/-! ## Answers under a time limit -/

/-- Whether an answer comes after the time limit; zero is no limit. -/
def Answer.Late (a : Answer) (timeoutMs : Nat) : Prop := 0 < timeoutMs ∧ timeoutMs < a.delayMs

section Answer

variable {a : Answer} {timeoutMs : Nat}

/-- A late answer is an error that names the limit. -/
lemma Answer.within_late (h : a.Late timeoutMs) :
    a.within timeoutMs = .error (.execution (.timedOut timeoutMs)) :=
  if_pos h

/-- An answer in time is its result. -/
lemma Answer.within_in_time (h : ¬a.Late timeoutMs) : a.within timeoutMs = a.result :=
  if_neg h

/-- A late answer and a failure in time both come to a failure. -/
lemma Answer.within_failed (h : a.Late timeoutMs ∨ ∃ failure, a.result = .error failure) :
    ∃ failure, a.within timeoutMs = .error failure := by
  by_cases hl : a.Late timeoutMs
  · exact ⟨_, within_late hl⟩
  · obtain ⟨failure, hf⟩ := h.resolve_left hl
    exact ⟨failure, (within_in_time hl).trans hf⟩

end Answer

/-! ## Accepted requests -/

section Accept

variable {r : Request} {c : QueryConfig}

/-- A request that is invalid, or whose page exceeds the cap, is not accepted. -/
lemma Request.accept_refused (h : r.validate ≠ .ok () ∨
      (0 < c.maxPageSize ∧ c.maxPageSize < r.endRow - r.startRow)) :
    ∃ cause, r.accept c = .error cause := by
  unfold accept
  cases hv : r.validate with
  | error cause => exact ⟨cause, rfl⟩
  | ok _ =>
    obtain ⟨-, w, hw⟩ := validate_inv hv
    have hsize := pageSize_of_window hw
    have hc : 0 < c.maxPageSize ∧ c.maxPageSize < w.pageSize := by
      rcases h with h | h
      · exact absurd hv h
      · omega
    rw [hw]
    exact ⟨_, if_pos hc⟩

/-- Any other request is accepted and planned. -/
lemma Request.accept_valid (h : r.validate = .ok ())
    (hc : ¬(0 < c.maxPageSize ∧ c.maxPageSize < r.endRow - r.startRow)) :
    ∃ w, r.window = .ok w ∧ r.accept c = .ok w ∧
      r.plan = .ok ⟨r.query w, r.grouping, r.ignoredFilters⟩ := by
  obtain ⟨-, w, hw⟩ := validate_inv h
  have hsize := pageSize_of_window hw
  have hc' : ¬(0 < c.maxPageSize ∧ c.maxPageSize < w.pageSize) := by omega
  refine ⟨w, hw, ?_, plan_of_valid h hw⟩
  unfold accept
  rw [h, hw]
  exact if_neg hc'

end Accept

/-! ## Served requests -/

namespace Source

variable {s : Source} {c : QueryConfig} {r : Request} (sent : List Delivery)

/-- The answer to a request for a window of rows whose statement has been planned. -/
def outcome (s : Source) (c : QueryConfig) (w : PageWindow) (p : Plan) : Except Error Response :=
  match (s.answer (p.statement s.dialect c.mode)).within c.timeoutMs with
  | .ok rows => .ok (.ofPage (w.trim rows) p.ignoredFilters)
  | .error failure =>
    if c.fallback then
      .ok (.ofUnexecuted (p.query.render s.dialect .inline).sql p.ignoredFilters)
    else .error failure

/-- A request that is refused is answered with the reason, and nothing is sent. -/
lemma perform_serve_refused {cause : Invalid} (h : r.accept c = .error cause) :
    (s.serve c r).perform sent = (.error (.validation cause), sent) := by
  unfold serve
  rw [h]
  rfl

/-- A failed statement is answered without a further delivery. -/
lemma perform_recover {p : Plan} (h : r.plan = .ok p) (statement : Statement) (failure : Error) :
    (s.recover c r statement failure).perform sent =
      (if c.fallback then
        .ok (.ofUnexecuted (p.query.render s.dialect .inline).sql statement.ignoredFilters)
      else .error failure, sent) := by
  unfold recover
  rw [Request.inlineSql_of_plan h]
  cases c.fallback <;> rfl

/-- An accepted request sends the statement of its plan, and nothing else. -/
lemma perform_serve {w : PageWindow} {p : Plan} (h : r.accept c = .ok w) (hp : r.plan = .ok p) :
    (s.serve c r).perform sent =
      (s.outcome c w p, sent ++ [⟨s, p.statement s.dialect c.mode⟩]) := by
  unfold serve
  rw [h, Request.compile_of_plan hp]
  -- both checks have passed, so what is left is the statement and what follows a failure of it
  change (tryCatch (do
      let rows ← s.execute (p.statement s.dialect c.mode) c.timeoutMs
      return .ofPage (w.trim rows) p.ignoredFilters)
    (s.recover c r (p.statement s.dialect c.mode))).perform sent = _
  rw [Service.perform_tryCatch, Service.perform_bind, perform_execute]
  unfold outcome
  cases (s.answer (p.statement s.dialect c.mode)).within c.timeoutMs with
  | ok rows => rfl
  | error failure => exact perform_recover _ hp _ failure

section Outcome

variable {w : PageWindow} {p : Plan}

/-- Rows in time become a page. -/
lemma outcome_rows {rows : List Row}
    (h : (s.answer (p.statement s.dialect c.mode)).within c.timeoutMs = .ok rows) :
    s.outcome c w p = .ok (.ofPage (w.trim rows) p.ignoredFilters) := by
  rw [outcome, h]

/-- A failure becomes the page without rows where that is wanted. -/
lemma outcome_fallback {failure : Error} (hc : c.fallback = true)
    (h : (s.answer (p.statement s.dialect c.mode)).within c.timeoutMs = .error failure) :
    s.outcome c w p =
      .ok (.ofUnexecuted (p.query.render s.dialect .inline).sql p.ignoredFilters) := by
  rw [outcome, h]
  exact if_pos hc

/-- A failure is told as it is where nothing else is wanted. -/
lemma outcome_failure {failure : Error} (hc : c.fallback = false)
    (h : (s.answer (p.statement s.dialect c.mode)).within c.timeoutMs = .error failure) :
    s.outcome c w p = .error failure := by
  rw [outcome, h]
  exact if_neg (Bool.eq_false_iff.mp hc)

end Outcome

/--
The answer to a valid request within the page cap.  Rows in time are cut to the page; a failure or
a late answer gives, with the fallback, an empty page with the inline text of the statement, and
without it the failure itself.  Pages name the filters that the plan ignored.
-/
theorem serve_outcome (s : Source) (c : QueryConfig) (r : Request) (sent : List Delivery)
    (valid : r.validate = .ok ())
    (capped : c.maxPageSize = 0 ∨ r.endRow - r.startRow ≤ c.maxPageSize) :
    ∃ (p : Plan) (statement : Statement) (sql : String) (response : Except Error Response),
      r.plan = .ok p ∧ r.compile s.dialect c.mode = .ok statement ∧
      r.inlineSql s.dialect = .ok sql ∧ ((s.serve c r).perform sent).1 = response ∧
      let size := (r.endRow - r.startRow).toNat
      let late := (s.answer statement).Late c.timeoutMs
      let result := (s.answer statement).result
      (∀ rows, ¬late → result = .ok rows → response = .ok {
        rows := rows.take (min size rows.length)
        lastRow := min size rows.length
        success := true
        hasMore := decide (size < rows.length)
        unexecuted := none
        notice := none
        ignoredFilters := p.ignoredFilters }) ∧
      ((late ∨ ∃ failure, result = .error failure) → c.fallback = true → response = .ok {
        rows := []
        lastRow := 0
        success := true
        hasMore := false
        unexecuted := some sql
        notice := some fallbackNotice
        ignoredFilters := p.ignoredFilters }) ∧
      (c.fallback = false →
        (late → response = .error (.execution (.timedOut c.timeoutMs))) ∧
        ∀ failure, ¬late → result = .error failure → response = .error failure) ∧
      ∀ page, response = .ok page →
        (page.unexecuted.isSome ↔ late ∨ ∃ failure, result = .error failure) := by
  obtain ⟨w, hw, haccept, hp⟩ := Request.accept_valid (c := c) valid (by omega)
  have hsize := Request.pageSize_of_window hw
  have htoNat : (r.endRow - r.startRow).toNat = w.pageSize := by omega
  refine ⟨_, _, _, _, hp, Request.compile_of_plan hp _ _, Request.inlineSql_of_plan hp _, rfl, ?_⟩
  rw [perform_serve sent haccept hp, htoNat]
  intro size late result
  have hrows (rows : List Row) (hl : ¬late) (hr : result = .ok rows) :
      s.outcome c w _ = .ok (.ofPage (w.trim rows) r.ignoredFilters) :=
    outcome_rows ((Answer.within_in_time hl).trans hr)
  refine ⟨?rows, ?fallback, fun hc => ⟨?late, ?failure⟩, ?shown⟩
  case rows =>
    intro rows hl hr
    have htake : rows.take w.pageSize = rows.take (min size rows.length) :=
      List.take_eq_take_min
    have hlen : (rows.take w.pageSize).length = min size rows.length := List.length_take
    rw [hrows rows hl hr, Response.ofPage, PageWindow.trim, Page.rowCount, hlen, htake]
  case fallback =>
    intro hf hc
    obtain ⟨failure, hfail⟩ := Answer.within_failed hf
    exact outcome_fallback hc hfail
  case late => exact fun hl => outcome_failure hc (Answer.within_late hl)
  case failure =>
    exact fun failure hl hr => outcome_failure hc ((Answer.within_in_time hl).trans hr)
  case shown =>
    intro page hpage
    -- a page comes either of the rows or of the fallback, so each outcome decides both directions
    by_cases hf : late ∨ ∃ failure, result = .error failure
    · obtain ⟨failure, hfail⟩ := Answer.within_failed hf
      cases hc : c.fallback with
      | true =>
        rw [outcome_fallback hc hfail] at hpage
        cases hpage
        exact iff_of_true rfl hf
      | false =>
        rw [outcome_failure hc hfail] at hpage
        cases hpage
    · have hl : ¬late := fun h => hf (.inl h)
      cases hr : result with
      | error failure => exact absurd (.inr ⟨failure, hr⟩) hf
      | ok rows =>
        rw [hrows rows hl hr] at hpage
        cases hpage
        exact iff_of_false Bool.false_ne_true (hr ▸ hf)

/-- A source that answers every statement alike. -/
def steady (d : Sql.Dialect) (a : Answer) : Source := ⟨d, fun _ => a⟩

/-- One row more than a page of medals holds, in time; and the same rows too late. -/
theorem serve_outcome_medals :
    (Request.medals "it's" "50%" 3 9).validate = .ok () ∧
    (((steady .postgres ⟨20, .ok (List.replicate 101 [])⟩).serve { timeoutMs := 30 }
      (Request.medals "it's" "50%" 3 9)).perform []).1 = .ok {
        rows := List.replicate 100 []
        lastRow := 100
        success := true
        hasMore := true
        unexecuted := none
        notice := none
        ignoredFilters := ["date"] } ∧
    ∃ sql, (Request.medals "it's" "50%" 3 9).inlineSql .postgres = .ok sql ∧
      (((steady .postgres ⟨40, .ok (List.replicate 101 [])⟩).serve { timeoutMs := 30 }
        (Request.medals "it's" "50%" 3 9)).perform []).1 = .ok {
          rows := []
          lastRow := 0
          success := true
          hasMore := false
          unexecuted := some sql
          notice := some fallbackNotice
          ignoredFilters := ["date"] } := by
  have hv : (Request.medals "it's" "50%" 3 9).validate = .ok () := rfl
  have htime : ¬(Answer.mk 20 (.ok (List.replicate 101 []))).Late 30 := by
    unfold Answer.Late
    decide
  have hlate : (Answer.mk 40 (.ok (List.replicate 101 []))).Late 30 := by
    unfold Answer.Late
    decide
  refine ⟨hv, ?_, ?_⟩
  · obtain ⟨p, _, _, _, hp, -, -, rfl, hrows, -⟩ :=
      serve_outcome (steady .postgres ⟨20, .ok (List.replicate 101 [])⟩) { timeoutMs := 30 } _ []
        hv (.inl rfl)
    cases hp
    exact hrows _ htime rfl
  · obtain ⟨p, _, sql, _, hp, -, hsql, rfl, -, hfallback, -⟩ :=
      serve_outcome (steady .postgres ⟨40, .ok (List.replicate 101 [])⟩) { timeoutMs := 30 } _ []
        hv (.inl rfl)
    cases hp
    exact ⟨sql, hsql, hfallback (.inl hlate) rfl⟩

end Source

end GridRows
