import GridRows.Proofs.Serving
import GridRows.Proofs.Sql.Template

/-!
# What reaches a data source

A registry is made by inserts, and a name stands for the source inserted last under it
(`Sources.get?_ofInserts`).  What the registry sends for a request follows: nothing if it refuses
the request, and otherwise one statement, to that source.

The main statement is `Sources.serve_sends`.
-/

namespace GridRows

/-- The source is the one inserted last under the name. -/
def LastInserted (inserts : List (String × Source)) (name : String) (s : Source) : Prop :=
  ∃ before after, inserts = before ++ (name, s) :: after ∧ ∀ entry ∈ after, entry.1 ≠ name

/-- There is one such source at most. -/
lemma LastInserted.unique {inserts : List (String × Source)} {name : String} {s s' : Source}
    (h : LastInserted inserts name s) (h' : LastInserted inserts name s') : s = s' := by
  obtain ⟨before, after, rfl, hafter⟩ := h
  obtain ⟨before', after', e, hafter'⟩ := h'
  -- whichever insert came first would have the other after it
  rcases List.append_eq_append_iff.mp e with ⟨between, -, e⟩ | ⟨between, -, e⟩
  · cases between with
    | nil => exact congrArg Prod.snd (List.cons.inj e).1
    | cons _ between =>
      obtain ⟨-, rfl⟩ := List.cons.inj e
      exact absurd rfl (hafter (name, s') (List.mem_append_right _ List.mem_cons_self))
  · cases between with
    | nil => exact congrArg Prod.snd (List.cons.inj e).1.symm
    | cons _ between =>
      obtain ⟨-, rfl⟩ := List.cons.inj e
      exact absurd rfl (hafter' (name, s) (List.mem_append_right _ List.mem_cons_self))

namespace Sources

/-- The registry after the inserts, in their order. -/
def ofInserts (config : Option Config) (inserts : List (String × Source)) : Sources :=
  inserts.foldl (fun ss entry => ss.insert entry.1 entry.2) { config }

/-! ## Names -/

section Names

variable {name other : String} {s : Source} {ss : Sources}

/-- The source that is inserted is found under its name. -/
lemma get?_insert_self : (ss.insert name s).get? name = some s := by
  unfold insert get?
  exact List.lookup_cons_self

/-- Under every other name the source stays that it was. -/
lemma get?_insert_other (h : name ≠ other) : (ss.insert other s).get? name = ss.get? name := by
  have hskip (rest : List (String × Source)) :
      ((other, s) :: rest).lookup name = rest.lookup name := by
    rw [List.lookup_cons, beq_false_of_ne h]
  refine (hskip _).trans ?_
  unfold get?
  -- what the insert drops are entries of the other name
  induction ss.entries with
  | nil => rfl
  | cons entry entries ih =>
    obtain ⟨key, source⟩ := entry
    by_cases hk : key = other
    · subst hk
      rw [List.filter_cons_of_neg (by simp), ih, List.lookup_cons, beq_false_of_ne h]
    · rw [List.filter_cons_of_pos (by simpa using hk), List.lookup_cons, List.lookup_cons, ih]

/-- The inserts either end with one under the name, or leave it as it was. -/
lemma get?_foldl_insert (inserts : List (String × Source)) (name : String) (ss : Sources) :
    (∃ s, LastInserted inserts name s ∧
      (inserts.foldl (fun ss entry => ss.insert entry.1 entry.2) ss).get? name = some s) ∨
    ((∀ entry ∈ inserts, entry.1 ≠ name) ∧
      (inserts.foldl (fun ss entry => ss.insert entry.1 entry.2) ss).get? name = ss.get? name) := by
  induction inserts generalizing ss with
  | nil => exact .inr ⟨nofun, rfl⟩
  | cons entry inserts ih =>
    obtain ⟨key, source⟩ := entry
    rcases ih (ss.insert key source) with ⟨s, ⟨before, after, rfl, hafter⟩, hs⟩ | ⟨hnone, hs⟩
    · exact .inl ⟨s, ⟨(key, source) :: before, after, rfl, hafter⟩, hs⟩
    · by_cases hk : key = name
      · subst hk
        exact .inl ⟨source, ⟨[], inserts, rfl, hnone⟩, hs.trans get?_insert_self⟩
      · refine .inr ⟨List.forall_mem_cons.mpr ⟨hk, hnone⟩, hs.trans ?_⟩
        exact get?_insert_other (Ne.symm hk)

/-- A name stands for the source last inserted under it, or for none if there was no such insert. -/
lemma get?_ofInserts (config : Option Config) (inserts : List (String × Source)) (name : String) :
    (∃ s, LastInserted inserts name s ∧ (ofInserts config inserts).get? name = some s) ∨
    ((∀ entry ∈ inserts, entry.1 ≠ name) ∧ (ofInserts config inserts).get? name = none) :=
  get?_foldl_insert inserts name { config }

end Names

/-! ## What is sent -/

section Serve

variable {name : String} {r : Request} {s : Source} {ss : Sources}

/-- A registered source serves under the settings for its name. -/
lemma serve_registered (h : ss.get? name = some s) :
    ss.serve name r = s.serve (ss.configFor name).query r := by
  unfold serve
  rw [h]

/-- Without a source nothing is sent, and the name is refused. -/
lemma perform_serve_unregistered (h : ss.get? name = none) (sent : List Delivery) :
    (ss.serve name r).perform sent = (.error (.validation (.notRegistered name)), sent) := by
  unfold serve
  rw [h]
  rfl

/-- With a source the request is compiled in its dialect. -/
lemma compile_registered (h : ss.get? name = some s) (mode : Sql.RenderMode) :
    ss.compile name r mode = r.compile s.dialect mode := by
  unfold compile
  rw [h]

end Serve

/--
What a registry sends for a request, whatever it was filled with and whatever its sources answer.
Nothing, if no source has the name, the request is invalid or its page exceeds the cap; the answer
is then that the request is invalid.  Otherwise one statement, to the source inserted last under the
name: the one that the registry compiles for the request, whose limit is one above the page size.
-/
theorem serve_sends (config : Option Config) (inserts : List (String × Source)) (name : String)
    (r : Request) (sent : List Delivery) :
    let ss := ofInserts config inserts
    let c := (ss.configFor name).query
    let refused := (∀ entry ∈ inserts, entry.1 ≠ name) ∨ r.validate ≠ .ok () ∨
      (0 < c.maxPageSize ∧ c.maxPageSize < r.endRow - r.startRow)
    (refused → ∃ cause, (ss.serve name r).perform sent = (.error (.validation cause), sent)) ∧
    (¬refused → ∃ s statement response, LastInserted inserts name s ∧
      (ss.serve name r).perform sent = (response, sent ++ [⟨s, statement⟩]) ∧
      ss.compile name r c.mode = .ok statement ∧
      ∃ (head : String) (limit offset : Nat),
        statement.sql = head ++ " limit " ++ toString limit ++ " offset " ++ toString offset ∧
        limit = r.endRow - r.startRow + 1 ∧ offset = r.startRow ∧
        (0 < c.maxPageSize → limit ≤ c.maxPageSize + 1)) := by
  intro ss c refused
  rcases get?_ofInserts config inserts name with ⟨s, hlast, hget⟩ | ⟨hnone, hget⟩
  case inr =>
    -- without a source it does not come to the request
    exact ⟨fun _ => ⟨_, perform_serve_unregistered hget sent⟩, fun h => absurd (.inl hnone) h⟩
  have hin : ¬∀ entry ∈ inserts, entry.1 ≠ name := by
    obtain ⟨before, after, rfl, -⟩ := hlast
    exact fun h => h (name, s) (List.mem_append_right _ List.mem_cons_self) rfl
  rw [serve_registered hget, compile_registered hget]
  constructor
  · rintro (h | h)
    · exact absurd h hin
    · obtain ⟨cause, hrefused⟩ := Request.accept_refused h
      exact ⟨cause, Source.perform_serve_refused sent hrefused⟩
  · intro h
    -- past both checks the page is planned and sent, so only the end of its text is left to find
    obtain ⟨hvalid, hcap⟩ := not_or.mp fun h' => h (.inr h')
    obtain ⟨w, hw, haccept, hp⟩ := Request.accept_valid (Classical.not_not.mp hvalid) hcap
    have hsize := Request.pageSize_of_window hw
    have hlimit : (r.query w).limit = some (w.pageSize + 1) := rfl
    obtain ⟨head, hsql⟩ := Sql.Query.sql_ends s.dialect c.mode hlimit rfl
    refine ⟨s, _, _, hlast, Source.perform_serve sent haccept hp, Request.compile_of_plan hp _ _,
      head, _, _, hsql, ?_, ?_, fun hmax => ?_⟩
    · omega
    · exact (PageWindow.ofBounds_inv hw).1.symm
    · omega

/-- A source that fails every statement. -/
def failing (d : Sql.Dialect) : Source := .steady d ⟨0, .error (.execution (.stated "down"))⟩

/-- Inserts of which the second takes the name of the first. -/
def renewal : List (String × Source) :=
  [("medals", failing .mysql), ("medals", failing .postgres), ("Medals", failing .duckdb)]

/-- The later of two sources of one name gets a statement of 101 rows, a name near it none. -/
theorem serve_sends_renewal :
    let ss := ofInserts (some { query := { maxPageSize := 100 } }) renewal
    let r := Request.medals "it's" "50%" 3 9
    ((ss.serve "medal" r).perform []).2 = [] ∧
    ∃ statement response head,
      (ss.serve "medals" r).perform [] = (response, [⟨failing .postgres, statement⟩]) ∧
      ss.compile "medals" r .parameterized = .ok statement ∧
      statement.sql = head ++ " limit " ++ toString 101 ++ " offset " ++ toString 0 := by
  intro ss r
  constructor
  · obtain ⟨_, h⟩ :=
      (serve_sends (some { query := { maxPageSize := 100 } }) renewal "medal" r []).1
        (.inl (by decide))
    exact congrArg Prod.snd h
  · have valid : (Request.medals "it's" "50%" 3 9).validate = .ok () := rfl
    have accepted : ¬((∀ entry ∈ renewal, entry.1 ≠ "medals") ∨ r.validate ≠ .ok () ∨
        (0 < 100 ∧ ((100 : Nat) : Int) < r.endRow - r.startRow)) := by
      rintro (h | h | h)
      · exact h _ List.mem_cons_self rfl
      · exact h valid
      · exact absurd h.2 (by decide)
    obtain ⟨s, statement, response, hlast, h, hcompile, head, limit, offset, hsql, hlimit,
        hoffset, -⟩ :=
      (serve_sends (some { query := { maxPageSize := 100 } }) renewal "medals" r []).2 accepted
    have hs : s = failing .postgres :=
      hlast.unique ⟨[("medals", failing .mysql)], [("Medals", failing .duckdb)], rfl, by decide⟩
    have hl : limit = 101 := Int.ofNat_inj.mp hlimit
    have ho : offset = 0 := Int.ofNat_inj.mp hoffset
    subst hs hl ho
    exact ⟨statement, response, head, h, hcompile, hsql⟩

end Sources

end GridRows
