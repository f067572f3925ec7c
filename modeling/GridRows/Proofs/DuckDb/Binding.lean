import GridRows.DuckDb.Value
import GridRows.Proofs.Plan
import GridRows.Proofs.Sql.Template

/-!
# Bound values read back

A scalar that DuckDB is given is given back as it was, unless it is a whole number that no signed word
holds: that one is bound as a binary number, which stays one.  Arrays and objects are bound as their text
and are given back as that (`toJson_ofJson`).

The values that a request binds are texts and numbers, and the numbers are operands of its filters.  So
the operands alone decide whether all of them are given back (`Request.params_given_back`).
-/

namespace GridRows

namespace DuckDb

/-- The values that are bound as what they are. -/
inductive BoundAsIs : Json.Value → Prop where
  | null : BoundAsIs .null
  | boolean (b : Bool) : BoundAsIs (.boolean b)
  | string (s : String) : BoundAsIs (.string s)
  | float (x : Number.Double) : BoundAsIs (.number (.float x))
  /-- A signed word holds the number. -/
  | integer {n : Int} {fits : Json.FitsWord n}
      (signed : -0x8000000000000000 ≤ n ∧ n ≤ 0x7fffffffffffffff) :
      BoundAsIs (.number (.integer n fits))

section

variable {n : Int} {fits : Json.FitsWord n}

/-- A whole number is bound as what it is exactly if it is not above the signed words. -/
lemma boundAsIs_integer :
    BoundAsIs (.number (.integer n fits)) ↔ n ≤ 0x7fffffffffffffff := by
  constructor
  · intro h
    cases h with
    | integer signed => exact signed.2
  · exact fun h => .integer ⟨fits.1, h⟩

/-- A whole number that a signed word holds is bound as this word. -/
lemma toJson_ofJson_signed (h : n ≤ 0x7fffffffffffffff) :
    (Value.ofJson (.number (.integer n fits))).toJson = .number (.integer n fits) := by
  have hword : (Int64.ofInt n).toInt = n := Int64.toInt_ofInt_of_le fits.1 (by omega)
  have hnumber : Json.Number.ofInt64 (Int64.ofInt n) = .integer n fits := by
    simp only [Json.Number.ofInt64, hword]
  rw [Value.ofJson, if_pos (by omega), Value.toJson, hnumber]

/-- A greater one is bound as a binary number. -/
lemma toJson_ofJson_unsigned (h : 0x7fffffffffffffff < n) :
    (Value.ofJson (.number (.integer n fits))).toJson =
      .number (.float (Json.Number.integer n fits).toDouble) := by
  rw [Value.ofJson, if_neg (by omega)]
  rfl

end

/-- A value is given back as it was bound exactly if it is bound as what it is. -/
lemma toJson_ofJson {v : Json.Value} : (Value.ofJson v).toJson = v ↔ BoundAsIs v := by
  cases v with
  | null => exact iff_of_true rfl .null
  | boolean b => exact iff_of_true rfl (.boolean b)
  | string s => exact iff_of_true rfl (.string s)
  | array items => exact iff_of_false nofun nofun
  | object members => exact iff_of_false nofun nofun
  | number number =>
    cases number with
    | float x => exact iff_of_true rfl (.float x)
    | integer n fits =>
      rw [boundAsIs_integer]
      by_cases h : n ≤ 0x7fffffffffffffff
      · exact iff_of_true (toJson_ofJson_signed h) h
      · rw [toJson_ofJson_unsigned (Int.not_le.mp h)]
        exact iff_of_false nofun h

end DuckDb

open DuckDb (BoundAsIs boundAsIs_integer toJson_ofJson)

/-- The values of a statement are bound as what they are if the operands of its filters are. -/
lemma Request.boundAsIs_iff (r : Request) (w : PageWindow) :
    (∀ v ∈ (r.query w).literals, BoundAsIs v) ↔
      ∀ column f, (column, f) ∈ r.filters → ∀ n fits, .integer n fits ∈ f.numbers →
        n ≤ 0x7fffffffffffffff := by
  constructor
  · intro h column f hf n fits hn
    exact boundAsIs_integer.mp (h _ (number_mem_literals.mpr ⟨column, f, hf, hn⟩))
  · intro h v hv
    cases literals_query hv with
    | text s => exact .string s
    | number number =>
      obtain ⟨column, f, hf, hn⟩ := number_mem_literals.mp hv
      cases number with
      | float x => exact .float x
      | integer n fits => exact boundAsIs_integer.mpr (h column f hf n fits hn)

/--
A value is given back as it was bound exactly if it is null, a truth value, a text, a binary number, or a
whole number that a signed word of 64 bits holds.  A valid request is given back all the values that it
binds exactly if no number of its filters is a whole number above those.
-/
theorem Request.params_given_back :
    (∀ v : Json.Value, (DuckDb.Value.ofJson v).toJson = v ↔
      v = .null ∨ (∃ b, v = .boolean b) ∨ (∃ s, v = .string s) ∨ (∃ x, v = .number (.float x)) ∨
        ∃ n fits, v = .number (.integer n fits) ∧
          -0x8000000000000000 ≤ n ∧ n ≤ 0x7fffffffffffffff) ∧
    ∀ (d : Sql.Dialect) (r : Request), r.validate = .ok () →
      ∃ s, r.compileParameterized d = .ok s ∧
        (s.params.map (fun v => (DuckDb.Value.ofJson v).toJson) = s.params ↔
          ∀ column f, (column, f) ∈ r.filters → ∀ n fits, .integer n fits ∈ f.numbers →
            n ≤ 0x7fffffffffffffff) := by
  refine ⟨fun v => ?value, fun d r valid => ?request⟩
  case value =>
    rw [toJson_ofJson]
    constructor
    · intro h
      cases h with
      | null => exact .inl rfl
      | boolean b => exact .inr (.inl ⟨b, rfl⟩)
      | string s => exact .inr (.inr (.inl ⟨s, rfl⟩))
      | float x => exact .inr (.inr (.inr (.inl ⟨x, rfl⟩)))
      | integer signed => exact .inr (.inr (.inr (.inr ⟨_, _, rfl, signed⟩)))
    · rintro (rfl | ⟨b, rfl⟩ | ⟨s, rfl⟩ | ⟨x, rfl⟩ | ⟨n, fits, rfl, signed⟩)
      · exact .null
      · exact .boolean b
      · exact .string s
      · exact .float x
      · exact .integer signed
  case request =>
    obtain ⟨-, w, hw⟩ := validate_inv valid
    refine ⟨_, compile_of_plan (plan_of_valid valid hw) d .parameterized, ?_⟩
    rw [Plan.statement, Sql.Query.render_parameterized]
    -- a list is given back exactly if each of its values is
    calc (r.query w).literals.map (fun v => (DuckDb.Value.ofJson v).toJson) = (r.query w).literals
        ↔ (r.query w).literals.map (fun v => (DuckDb.Value.ofJson v).toJson) =
            (r.query w).literals.map id := by rw [List.map_id]
      _ ↔ ∀ v ∈ (r.query w).literals, (DuckDb.Value.ofJson v).toJson = v := List.map_eq_map_iff
      _ ↔ ∀ v ∈ (r.query w).literals, BoundAsIs v := forall₂_congr fun _ _ => toJson_ofJson
      _ ↔ _ := r.boundAsIs_iff w

/-- The gold medals of the athlete with the given number. -/
def Request.athlete (id : UInt64) : Request :=
  { medals "USA" "Phelps" 20 30 with
    filterModel := some [("id", .number .equals (.ofUInt64 id))] }

/-- The greatest number of a signed word is given back, the number after it is not. -/
theorem Request.params_given_back_athlete :
    (athlete 0x7fffffffffffffff).validate = .ok () ∧
    (athlete 0x8000000000000000).validate = .ok () ∧
    (∃ s, (athlete 0x7fffffffffffffff).compileParameterized .duckdb = .ok s ∧
      s.params.map (fun v => (DuckDb.Value.ofJson v).toJson) = s.params) ∧
    ∃ s, (athlete 0x8000000000000000).compileParameterized .duckdb = .ok s ∧
      s.params.map (fun v => (DuckDb.Value.ofJson v).toJson) ≠ s.params := by
  obtain ⟨s, hs, hparams⟩ := params_given_back.2 .duckdb (athlete 0x7fffffffffffffff) rfl
  obtain ⟨t, ht, htparams⟩ := params_given_back.2 .duckdb (athlete 0x8000000000000000) rfl
  refine ⟨rfl, rfl, ⟨s, hs, hparams.mpr ?signed⟩, t, ht, fun h => ?unsigned⟩
  case signed =>
    intro column f hf n fits hn
    cases List.mem_singleton.mp hf
    cases List.mem_singleton.mp hn
    decide
  case unsigned =>
    have hle := htparams.mp h "id" _ (List.mem_singleton_self _) _ _ (List.mem_singleton_self _)
    exact absurd hle (by decide)

end GridRows
