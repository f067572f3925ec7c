import GridRows.Proofs.RoundTrip
import GridRows.Proofs.Serving
import GridRows.Request.Reader
import Mathlib.Data.List.DropRight

/-!
# Validation is the only gate

A request is valid if it has no faults, and validation reports the first of them
(`Request.validate_eq_head?_faults`).  Planning fails with that report and no other way
(`Request.gates_plan`), and everything made from a plan is made without a failure of its own
(`Request.Gates.map`).

The main statement is `Request.validate_gates`: all that is made of a request is there if the request
is valid, and otherwise is the report of validation.
-/

namespace GridRows

open Sql (Dialect RenderMode)

/-! ## Faults -/

/-- The text without the blank characters at its ends. -/
def Text.trim (s : String) : String :=
  String.ofList ((s.toList.dropWhile isBlank).rdropWhile isBlank)

/-- Nothing is left of a text at whose ends blanks are left out exactly if all of it is blank. -/
lemma Text.trim_eq_empty {s : String} : trim s = "" ↔ allBlank s = true := by
  have hs := List.takeWhile_append_dropWhile (p := isBlank) (l := s.toList)
  rw [trim, String.ofList_eq_empty_iff, List.rdropWhile_eq_nil_iff, allBlank, List.all_eq_true]
  constructor
  · intro h c hc
    rw [← hs] at hc
    rcases List.mem_append.mp hc with hc | hc
    · exact List.mem_takeWhile_imp hc
    · exact h c hc
  · exact fun h c hc => h c (List.dropWhile_subset _ hc)

/-- All that is wrong with a request, in the order in which it is looked for. -/
def Request.faults (r : Request) : List Invalid :=
  (if Text.trim r.table = "" then [.noTable] else []) ++
  (if r.groupColumns.length < r.groupKeys.length then
    [.surplusKeys r.groupKeys.length r.groupColumns.length] else []) ++
  (r.groupColumns.filter (·.field = "")).map (.emptyGroupField ·.id) ++
  (r.valueColumns.filter fun c => c.field = "" ∨ c.aggregate = "").map
    (.incompleteAggregate ·.field) ++
  (if r.startRow < 0 ∨ r.endRow < 0 then [.negativeWindow r.startRow r.endRow] else []) ++
  (if r.endRow < r.startRow then [.reversedWindow r.startRow r.endRow] else [])

section Faults

variable {r : Request}

/-- A request without faults, said on its parts. -/
lemma Request.faults_eq_nil :
    r.faults = [] ↔
      Text.trim r.table ≠ "" ∧ r.groupKeys.length ≤ r.groupColumns.length ∧
        (∀ c ∈ r.groupColumns, c.field ≠ "") ∧
        (∀ c ∈ r.valueColumns, c.field ≠ "" ∧ c.aggregate ≠ "") ∧
        0 ≤ r.startRow ∧ r.startRow ≤ r.endRow := by
  have hwindow : 0 ≤ r.startRow ∧ 0 ≤ r.endRow ∧ r.startRow ≤ r.endRow ↔
      0 ≤ r.startRow ∧ r.startRow ≤ r.endRow := by
    omega
  unfold faults
  rw [← hwindow]
  simp only [List.append_eq_nil_iff, ite_eq_right_iff, List.cons_ne_nil, List.map_eq_nil_iff,
    List.filter_eq_nil_iff, decide_eq_true_eq, not_or, and_assoc, imp_false, Int.not_lt, Nat.not_lt,
    ne_eq]

/-- Validation reports the first fault. -/
lemma Request.validate_eq_head?_faults (r : Request) :
    r.validate = match r.faults.head? with
      | some cause => .error cause
      | none => .ok () := by
  have hfield : (fun c : GroupColumn => c.field.isEmpty) = fun c => decide (c.field = "") := by
    funext c
    exact Bool.eq_iff_iff.mpr (by simp)
  have hincomplete : ValueColumn.isIncomplete =
      fun c => decide (c.field = "" ∨ c.aggregate = "") := by
    funext c
    exact Bool.eq_iff_iff.mpr (by simp [ValueColumn.isIncomplete])
  have hwindow : (r.window.map fun _ => ()) =
      match ((if r.startRow < 0 ∨ r.endRow < 0 then
          [Invalid.negativeWindow r.startRow r.endRow] else []) ++
        (if r.endRow < r.startRow then
          [Invalid.reversedWindow r.startRow r.endRow] else [])).head? with
      | some cause => .error cause
      | none => .ok () := by
    unfold window PageWindow.ofBounds
    split
    · rfl
    · split <;> rfl
  rw [validate_eq, hfield, hincomplete, hwindow]
  unfold faults
  simp only [← Text.trim_eq_empty, List.append_assoc, List.head?_append, List.head?_map,
    List.head?_filter]
  -- each check either is the first to fail, or leaves the verdict to those after it
  split
  · rfl
  · split
    · rfl
    · cases r.groupColumns.find? fun c => decide (c.field = "") with
      | some c => rfl
      | none =>
        cases r.valueColumns.find? fun c => decide (c.field = "" ∨ c.aggregate = "") with
        | some c => rfl
        | none => rfl

/-- A request is valid exactly if nothing is wrong with it. -/
lemma Request.validate_eq_ok_iff_faults : r.validate = .ok () ↔ r.faults = [] := by
  rw [validate_eq_head?_faults]
  cases r.faults with
  | nil => exact iff_of_true rfl rfl
  | cons cause causes => exact iff_of_false nofun nofun

/-- Validation reports exactly the first thing that is wrong. -/
lemma Request.validate_eq_error_iff_faults {cause : Invalid} :
    r.validate = .error cause ↔ r.faults.head? = some cause := by
  rw [validate_eq_head?_faults]
  cases r.faults.head? with
  | none => exact iff_of_false nofun nofun
  | some first =>
    constructor
    · rintro ⟨⟩
      rfl
    · rintro ⟨⟩
      rfl

end Faults

/-! ## What passes the gate -/

/-- The result is there if the request is valid, and otherwise it is the report of validation. -/
def Request.Gates {α : Type} (r : Request) (result : Except Invalid α) : Prop :=
  match r.validate with
  | .ok _ => ∃ a, result = .ok a
  | .error cause => result = .error cause

section Gates

variable {α β : Type} {r : Request} {result : Except Invalid α}

/-- What is made of a result without a failure of its own passes where the result passes. -/
lemma Request.Gates.map (h : r.Gates result) (f : α → β) : r.Gates (do return f (← result)) := by
  unfold Gates at h ⊢
  split at h
  · obtain ⟨a, rfl⟩ := h
    exact ⟨f a, rfl⟩
  · rw [h]
    rfl

/-- Planning passes the gate. -/
lemma Request.gates_plan (r : Request) : r.Gates r.plan := by
  unfold Gates
  split
  · rename_i hv
    obtain ⟨-, w, hw⟩ := validate_inv hv
    exact ⟨_, plan_of_valid hv hw⟩
  · rename_i cause hv
    rw [plan, hv]
    rfl

/-- Compiling passes the gate. -/
lemma Request.gates_compile (r : Request) (d : Dialect) (mode : RenderMode) :
    r.Gates (r.compile d mode) :=
  r.gates_plan.map fun p => p.statement d mode

/-- Writing the text with values inline passes the gate. -/
lemma Request.gates_inlineSql (r : Request) (d : Dialect) : r.Gates (r.inlineSql d) :=
  (r.gates_compile d .inline).map (·.sql)

end Gates

/-! ## Pages that are too large -/

/-- The page cap is looked at after validation. -/
lemma Request.accept_tooLarge {r : Request} {c : QueryConfig} (h : r.validate = .ok ())
    (hc : 0 < c.maxPageSize ∧ c.maxPageSize < r.endRow - r.startRow) :
    r.accept c = .error (.pageTooLarge (r.endRow - r.startRow).toNat c.maxPageSize) := by
  obtain ⟨-, w, hw⟩ := validate_inv h
  have hsize := pageSize_of_window hw
  have hexceeds : 0 < c.maxPageSize ∧ c.maxPageSize < w.pageSize := by omega
  have htoNat : (r.endRow - r.startRow).toNat = w.pageSize := by omega
  rw [accept, h, hw, htoNat]
  exact if_pos hexceeds

/-- A request that is not valid is refused with the report of validation, whatever the cap. -/
lemma Request.accept_invalid {r : Request} {c : QueryConfig} {cause : Invalid}
    (h : r.validate = .error cause) : r.accept c = .error cause := by
  rw [accept, h]
  rfl

/-! ## Requests that were read -/

/-- Translating errors changes no result. -/
lemma mapError_eq_ok {ε ε' α : Type} {m : Except ε α} {f : ε → ε'} {a : α} :
    m.mapError f = .ok a ↔ m = .ok a := by
  cases m with
  | error e => exact iff_of_false nofun nofun
  | ok found =>
    constructor
    · rintro ⟨⟩
      rfl
    · rintro ⟨⟩
      rfl

/-- A text that is read as a valid request is read as a request that is valid. -/
lemma Request.validate_of_readValid {text : String} {r : Request} (h : readValid text = .ok r) :
    r.validate = .ok () := by
  obtain ⟨found, -, h⟩ := bind_eq_ok.mp h
  obtain ⟨_, hvalid, h⟩ := bind_eq_ok.mp h
  cases h
  exact mapError_eq_ok.mp hvalid

/-- A text that is read as a valid request is read as that request. -/
lemma Request.read_of_readValid {text : String} {r : Request} (h : readValid text = .ok r) :
    Request.read text = .ok r := by
  obtain ⟨found, hread, h⟩ := bind_eq_ok.mp h
  obtain ⟨_, -, h⟩ := bind_eq_ok.mp h
  cases h
  exact mapError_eq_ok.mp hread

/--
Validation is the only gate of a request.  It passes exactly if the table has a name that is not blank,
no level is missing for a key, all fields and aggregate functions are there, and the window runs
forward from no less than zero; otherwise it reports the first fault.  A plan, a statement in any
dialect and mode, by itself or for a registered source, and the texts of inline statements are there
if validation passes, and else are its report.  So is the answer of a source, before the page cap is
looked at.  What has been read and validated compiles.
-/
theorem Request.validate_gates (r : Request) :
    (r.validate = .ok () ↔
      Text.trim r.table ≠ "" ∧ r.groupKeys.length ≤ r.groupColumns.length ∧
        (∀ c ∈ r.groupColumns, c.field ≠ "") ∧
        (∀ c ∈ r.valueColumns, c.field ≠ "" ∧ c.aggregate ≠ "") ∧
        0 ≤ r.startRow ∧ r.startRow ≤ r.endRow) ∧
    (∀ cause, r.validate = .error cause ↔ r.faults.head? = some cause) ∧
    r.Gates r.plan ∧ (∀ d mode, r.Gates (r.compile d mode)) ∧
    (∀ d, r.Gates (r.compileParameterized d)) ∧ (∀ d, r.Gates (r.inlineSql d)) ∧
    r.Gates r.rowsSql ∧
    (∀ (ss : Sources) (name : String) (s : Source), ss.get? name = some s →
      ∀ mode, r.Gates (ss.compile name r mode)) ∧
    (∀ (s : Source) (c : QueryConfig) (sent : List Delivery),
      (∀ cause, r.validate = .error cause →
        (s.serve c r).perform sent = (.error (.validation cause), sent)) ∧
      (r.validate = .ok () → 0 < c.maxPageSize ∧ c.maxPageSize < r.endRow - r.startRow →
        (s.serve c r).perform sent = (.error (.validation
          (.pageTooLarge (r.endRow - r.startRow).toNat c.maxPageSize)), sent))) ∧
    ∀ text, readValid text = .ok r → ∀ d mode, ∃ statement, r.compile d mode = .ok statement := by
  refine ⟨?passes, fun cause => validate_eq_error_iff_faults, r.gates_plan, r.gates_compile,
    fun d => r.gates_compile d .parameterized, r.gates_inlineSql, r.gates_inlineSql .mysql,
    ?registered, fun s c sent => ⟨?first, ?capped⟩, ?read⟩
  case passes => rw [validate_eq_ok_iff_faults, faults_eq_nil]
  case registered =>
    intro ss name s h mode
    have hcompile : ss.compile name r mode = r.compile s.dialect mode := by
      rw [Sources.compile, h]
    rw [hcompile]
    exact r.gates_compile s.dialect mode
  case first => exact fun cause h => s.perform_serve_refused sent (accept_invalid h)
  case capped => exact fun h hc => s.perform_serve_refused sent (accept_tooLarge h hc)
  case read =>
    intro text h d mode
    have hgate := r.gates_compile d mode
    rw [Gates, validate_of_readValid h] at hgate
    exact hgate

/-- A request with a fault of every kind. -/
def Request.faulty : Request where
  table := " \t"
  groupColumns := [⟨"year", ""⟩]
  groupKeys := ["USA", "2008"]
  valueColumns := [⟨"gold", ""⟩]
  filterModel := none
  sortModel := none
  startRow := 1000000
  endRow := -1

/-- The first ten medals, as they are asked for. -/
def firstMedalsBody : Json.Value :=
  .object [("tableName", .string "medals"),
    ("startRow", .number (.ofInt64 0)), ("endRow", .number (.ofInt64 10))]

/-- The first ten medals. -/
def Request.firstMedals : Request where
  table := "medals"
  groupColumns := []
  groupKeys := []
  valueColumns := []
  filterModel := none
  sortModel := none
  startRow := 0
  endRow := 10

/-- Of all faults the first is reported everywhere; the text of a valid request compiles. -/
theorem Request.validate_gates_faulty :
    faulty.faults.length = 6 ∧ faulty.faults.head? = some .noTable ∧
    faulty.plan = .error .noTable ∧ faulty.compile .duckdb .inline = .error .noTable ∧
    faulty.rowsSql = .error .noTable ∧
    ((Source.steady .mysql ⟨0, .ok []⟩).serve { maxPageSize := 10 } faulty).perform [] =
      (.error (.validation .noTable), []) ∧
    readValid firstMedalsBody.text = .ok firstMedals ∧
    ∃ statement, firstMedals.compile .postgres .parameterized = .ok statement := by
  have hfault : faulty.validate = .error .noTable := rfl
  have hfaults : faulty.faults.length = 6 := by
    rw [faults, if_pos (Text.trim_eq_empty.mpr rfl)]
    rfl
  have hread : readValid firstMedalsBody.text = .ok firstMedals := by
    have htakes : (StateT.run (Request.shape.read Json.maxDepth) firstMedalsBody.chars).toOption =
        some (firstMedals, []) := by
      decide +kernel
    have hfound : Request.read firstMedalsBody.text = .ok firstMedals := by
      refine Json.Reader.run_eq_ok.mpr ⟨[], ?_, rfl⟩
      rw [Json.Value.text, String.toList_ofList]
      exact ok_of_toOption htakes
    rw [readValid, hfound]
    rfl
  obtain ⟨-, hfirst, hplan, hcompile, -, -, hsql, -, hserve, -⟩ := validate_gates faulty
  obtain ⟨-, -, -, -, -, -, -, -, -, hmedals⟩ := validate_gates firstMedals
  have hinline := hcompile .duckdb .inline
  rw [Gates, hfault] at hplan hinline hsql
  exact ⟨hfaults, (hfirst _).mp hfault, hplan, hinline, hsql, (hserve _ _ []).1 _ hfault, hread,
    hmedals _ hread .postgres .parameterized⟩

end GridRows
