import GridRows.Json.Record
import GridRows.Proofs.Json.Reading

/-!
# Records are read back

A record that is written as an object is read by filling a draft, one member after the other, and
finishing it (`Shape.takes_read_object`).  In whichever form a record is read, what every field
preserves of the draft holds when it is finished (`Shape.ensures_read`).
-/

namespace GridRows.Json

open Reader

namespace Reader

variable {σ : Type} {member : String → σ → Reader σ} {d d' d'' : σ}

/-- Members that fill a draft may be followed by members that fill what it has become. -/
lemma Fills.append {front back : List (String × Value)} (h : Fills member front d d')
    (h' : Fills member back d' d'') : Fills member (front ++ back) d d'' := by
  induction h with
  | nil d => exact h'
  | cons hmember _ ih => exact .cons hmember (ih h')

/-- A member that may be absent is written if it is there, and changes no draft if it is not. -/
lemma Fills.optional {α : Type} {key : String} {write : α → Value} {o : Option α}
    (absent : o = none → d' = d) (present : ∀ a ∈ o, Reads (member key d) (':' :: (write a).chars) d') :
    Fills member (o.map fun a => (key, write a)).toList d d' := by
  cases o with
  | none =>
    rw [absent rfl]
    exact .nil d
  | some a => exact .cons (present a rfl) (.nil d')

/-- What each member keeps, all members keep. -/
lemma ensures_members {I : σ → Prop} (step : ∀ key d, I d → Ensures (member key d) I) (fuel : Nat)
    (first : Bool) (hd : I d) : Ensures (members member fuel first d) I := by
  induction fuel generalizing first d with
  | zero => exact .throw _
  | succ fuel ih =>
    refine .after fun key? => ?_
    cases key? with
    | none => exact .pure hd
    | some key => exact (step key d hd).bind fun d' hd' => ih false hd'

/-- What each member keeps, the rest of an object keeps. -/
lemma ensures_objectRest {I : σ → Prop} (step : ∀ key d, I d → Ensures (member key d) I)
    (hd : I d) : Ensures (objectRest member d) I :=
  .after fun _ => ensures_members step _ true hd

/-- A refusal has no result, so anything holds of it. -/
lemma ensures_wrongType {α : Type} {P : α → Prop} (expected : String) :
    Ensures (wrongType expected) P := by
  refine .after fun cs => ?_
  split
  case h_1 => exact .throw _
  case h_2 => exact .after fun _ => .after fun _ => .throw _
  case h_3 => exact .after fun _ => .after fun _ => .throw _
  case h_4 => exact .after fun _ => .after fun _ => .throw _
  case h_5 => exact .after fun _ => .after fun _ => .throw _
  case h_6 => exact .throw _
  case h_7 => exact .throw _
  case h_8 =>
    split
    · exact .after fun _ => .throw _
    · exact .throw _

/-- What holds of every value that is taken holds of one that may be absent. -/
lemma ensures_optional {α : Type} {m : Reader α} {P : α → Prop} (h : Ensures m P) :
    Ensures (optional m) fun o => ∀ a ∈ o, P a := by
  refine .after fun cs => ?_
  split
  · exact .after fun _ => .after fun _ => .pure nofun
  · intro cs o rest ho
    obtain ⟨a, ha, rfl⟩ := takes_map.mp ho
    rintro _ ⟨⟩
    exact h cs a rest ha

/-- A whole number that is read fits a signed word. -/
lemma ensures_int64 : Ensures int64 fun n => -0x8000000000000000 ≤ n ∧ n < 0x8000000000000000 := by
  refine .after fun cs => ?_
  split
  · exact .throw _
  · split
    · refine .after fun n => ?_
      split
      · rename_i fits
        split
        · exact .pure ⟨fits.1, ‹_›⟩
        · exact .throw _
      · exact .throw _
    · exact ensures_wrongType _

end Reader

namespace Shape

variable {σ α : Type} {s : Shape σ α} {depth : Nat}

section Object

variable {draft d d' : σ} {a : α} {members : List (String × Value)}

/-- A member whose field has not been set is read by the reader of the field. -/
lemma reads_member {field : Field σ} {key : String} {v : Value}
    (hf : s.fields.find? (·.name = key) = some field) (hs : field.isSet d = false)
    (h : Reads (field.read depth d) v.chars d') :
    Reads (s.member depth key d) (':' :: v.chars) d' := by
  intro rest hr
  unfold member
  rw [hf]
  dsimp only
  rw [hs]
  exact (takes_colon _).bind.mpr (h rest hr)

/-- The members fill the draft, and the record is what it finishes to, if anything. -/
lemma takes_read_object (h : Fills (s.member depth) members s.empty draft) (rest out : List Char) :
    Takes (s.read (depth + 1)) ((Value.object members).chars ++ rest) a out ↔
      s.finish draft = .ok a ∧ out = rest := by
  unfold read
  refine (Takes.bind (a := draft) (r := rest) ?_).trans ?_
  · rw [Value.chars, List.cons_append, List.cons_append, List.append_assoc]
    refine takes_peek.mpr ((takes_descend depth _).bind.mpr (takes_set.mpr ?_))
    exact takes_objectRest h rest
  cases s.finish draft with
  | error cause =>
    constructor
    · exact fun h => (not_takes_throw h).elim
    · rintro ⟨⟨⟩, -⟩
  | ok found =>
    refine takes_pure.trans ?_
    rw [Except.ok.injEq, eq_comm]

/-- A record is read from the text of an object whose members fill its draft. -/
lemma reads_object (h : Fills (s.member depth) members s.empty draft) (hf : s.finish draft = .ok a) :
    Reads (s.read (depth + 1)) (Value.object members).chars a :=
  fun rest _ => (takes_read_object h rest rest).mpr ⟨hf, rfl⟩

end Object

section Ensures

variable {I : σ → Prop} {P : α → Prop}

/-- What every field keeps, a member of any name keeps. -/
lemma ensures_member (fields : ∀ f ∈ s.fields, ∀ depth d, I d → Ensures (f.read depth d) I)
    (key : String) {d : σ} (hd : I d) : Ensures (s.member depth key d) I := by
  unfold member
  split
  · exact .after fun _ => .after fun _ => .pure hd
  · rename_i field hf
    have hread := fields field (List.mem_of_find?_eq_some hf) depth d hd
    split
    · exact .after fun _ => .after fun _ => hread
    · exact .after fun _ => hread

/-- What every field keeps, the items of an array keep. -/
lemma ensures_itemsRest {rest : List (Field σ)}
    (fields : ∀ f ∈ rest, ∀ depth d, I d → Ensures (f.read depth d) I) (index : Nat) {d : σ}
    (hd : I d) : Ensures (s.itemsRest depth index rest d) I := by
  induction rest generalizing index d with
  | nil => exact .pure hd
  | cons field rest ih =>
    obtain ⟨hfield, hrest⟩ := List.forall_mem_cons.mp fields
    refine .after fun more => ?_
    split
    · exact (hfield depth d hd).bind fun d' hd' => ih hrest (index + 1) hd'
    · split
      · exact .throw _
      · exact ih hrest (index + 1) hd

/-- What the fields preserve and a finished draft passes on holds of every record that is read. -/
lemma ensures_read (empty : I s.empty)
    (fields : ∀ f ∈ s.fields, ∀ depth d, I d → Ensures (f.read depth d) I)
    (finish : ∀ d a, I d → s.finish d = .ok a → P a) (depth : Nat) : Ensures (s.read depth) P := by
  refine Ensures.bind (P := I) ?_ fun d hd => ?_
  · refine .after fun cs => ?_
    split
    · refine .after fun depth => .after fun _ => ?_
      exact (ensures_itemsRest fields 0 empty).bind fun d hd => .after fun _ => .pure hd
    · refine .after fun depth => .after fun _ => ?_
      exact ensures_objectRest (fun key d hd => ensures_member fields key hd) empty
    · exact ensures_wrongType _
  · split
    · exact .pure (finish d _ hd ‹_›)
    · exact .throw _

end Ensures

end Shape

end GridRows.Json
