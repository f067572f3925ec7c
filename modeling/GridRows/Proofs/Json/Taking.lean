import GridRows.Json.Reader
import Mathlib.Tactic.Lemma

/-!
# What readers take

`Takes` relates the characters in front of a reader to the value that it takes off them and to those
that it leaves.  Each way of putting readers together has a rule, which is read in both directions:
forwards it runs a reader, backwards it says how a run went.

Two properties of a reader are kept by putting readers together.  `Local` says that it looks no
further than what it takes, so it takes the same with more behind it; `Ensures` says something about
everything that it takes.
-/

namespace GridRows.Json.Reader

variable {α β : Type}

/-- The reader takes a value off the front of the characters and leaves the rest. -/
def Takes (m : Reader α) (cs : List Char) (a : α) (rest : List Char) : Prop :=
  StateT.run m cs = .ok (a, rest)

section Takes

variable {m : Reader α} {cs mid rest : List Char} {a a' : α} {b : β}

/-- Nothing is taken for a value that is given. -/
lemma takes_pure : Takes (pure a) cs a' rest ↔ a' = a ∧ rest = cs := by
  constructor
  · intro h
    cases h
    exact ⟨rfl, rfl⟩
  · rintro ⟨rfl, rfl⟩
    rfl

/-- A failure takes nothing. -/
lemma not_takes_throw {e : ReadError} : ¬ Takes (throw e) cs a rest := by
  intro h
  cases h

/-- Once a step has taken its value, the next step decides. -/
lemma Takes.bind {f : α → Reader β} {r : List Char} (h : Takes m cs a r) :
    Takes (m >>= f) cs b rest ↔ Takes (f a) r b rest := by
  unfold Takes at *
  rw [StateT.run_bind, h]
  rfl

/-- Two steps take what the first and then the second takes. -/
lemma takes_bind {f : α → Reader β} :
    Takes (m >>= f) cs b rest ↔ ∃ a mid, Takes m cs a mid ∧ Takes (f a) mid b rest := by
  constructor
  · intro h
    unfold Takes at h
    rw [StateT.run_bind] at h
    cases hm : StateT.run m cs with
    | error e =>
      rw [hm] at h
      cases h
    | ok found =>
      rw [hm] at h
      exact ⟨found.1, found.2, hm, h⟩
  · rintro ⟨a, mid, hm, hf⟩
    exact hm.bind.mpr hf

/-- A mapped reader takes the same characters for the mapped value. -/
lemma takes_map {f : α → β} : Takes (f <$> m) cs b rest ↔ ∃ a, Takes m cs a rest ∧ b = f a := by
  rw [map_eq_pure_bind, takes_bind]
  constructor
  · rintro ⟨a, mid, h, hp⟩
    obtain ⟨rfl, rfl⟩ := takes_pure.mp hp
    exact ⟨a, h, rfl⟩
  · rintro ⟨a, h, rfl⟩
    exact ⟨a, rest, h, takes_pure.mpr ⟨rfl, rfl⟩⟩

/-- What comes next may be looked at without taking it. -/
lemma takes_get {f : List Char → Reader β} :
    Takes (do f (← get)) cs b rest ↔ Takes (f cs) cs b rest :=
  Iff.rfl

/-- What comes next may be replaced, and the reader goes on there. -/
lemma takes_set {f : PUnit → Reader β} :
    Takes (do f (← set mid)) cs b rest ↔ Takes (f ()) mid b rest :=
  Iff.rfl

/-- Looking ahead passes over the blanks. -/
lemma takes_peek {f : List Char → Reader β} :
    Takes (do f (← peek)) cs b rest ↔
      Takes (f (cs.dropWhile isBlank)) (cs.dropWhile isBlank) b rest :=
  Iff.rfl

/-- A whole text is read if nothing but blanks is left of it. -/
lemma run_eq_ok {text : String} :
    Reader.run m text = .ok a ↔ ∃ rest, Takes m text.toList a rest ∧ rest.all isBlank := by
  unfold Reader.run
  cases h : StateT.run m text.toList with
  | error e =>
    constructor
    · intro hr
      cases hr
    · rintro ⟨rest, ht, -⟩
      cases h.symm.trans ht
  | ok found =>
    change (if found.2.all isBlank then Except.ok found.1 else .error ReadError.malformed) = _ ↔ _
    constructor
    · intro hr
      split at hr
      · cases hr
        exact ⟨found.2, h, ‹_›⟩
      · cases hr
    · rintro ⟨rest, ht, hb⟩
      cases h.symm.trans ht
      rw [if_pos hb]

end Takes

/-! ## What may follow a value -/

/-- The end of the text, a comma or a closing bracket comes next. -/
def Stops (cs : List Char) : Prop := ∀ c ∈ cs.head?, c ∈ [',', ']', '\x7d']

/-- The end of the text stops a value. -/
lemma Stops.nil : Stops [] := by
  rintro c ⟨⟩

/-- A comma or a closing character stops a value. -/
lemma Stops.cons {c : Char} (hc : c ∈ [',', ']', '\x7d']) (cs : List Char) : Stops (c :: cs) := by
  rintro _ ⟨⟩
  exact hc

/-- What stops a value begins with a comma or a closing character. -/
lemma Stops.head {c : Char} {cs : List Char} (h : Stops (c :: cs)) : c ∈ [',', ']', '\x7d'] :=
  h c rfl

/-- The text begins with neither a blank nor the end of an array, and not as `null` does. -/
def Leads (cs : List Char) : Prop :=
  ∃ c more, cs = c :: more ∧ c ∉ [' ', '\t', '\n', '\r', ']', 'n']

/-- A beginning stays the beginning of a longer text. -/
lemma Leads.append {cs : List Char} (h : Leads cs) (more : List Char) : Leads (cs ++ more) := by
  obtain ⟨c, cs, rfl, hc⟩ := h
  exact ⟨c, cs ++ more, rfl, hc⟩

/-- There are no blanks before the beginning of a value. -/
lemma Leads.dropWhile {cs : List Char} (h : Leads cs) : cs.dropWhile isBlank = cs := by
  obtain ⟨c, more, rfl, hc⟩ := h
  refine List.dropWhile_cons_of_neg fun hb => hc ?_
  have hblank : c ∈ [' ', '\t', '\n', '\r'] := by simpa [isBlank, or_assoc] using hb
  exact List.mem_append_left [']', 'n'] hblank

/-- The characters are taken for the value, with anything behind them that may follow a value. -/
def Reads (m : Reader α) (cs : List Char) (a : α) : Prop :=
  ∀ rest, Stops rest → Takes m (cs ++ rest) a rest

/-- A mapped reader reads the same characters for the mapped value. -/
lemma Reads.map {m : Reader α} {cs : List Char} {a : α} (h : Reads m cs a) (f : α → β) :
    Reads (do return f (← m)) cs (f a) :=
  fun rest hs => (h rest hs).bind.mpr (takes_pure.mpr ⟨rfl, rfl⟩)

/-- A value that is read back ends where its characters end. -/
lemma Reads.run {m : Reader α} {cs : List Char} {a : α} (h : Reads m cs a) :
    Reader.run m (String.ofList cs) = .ok a := by
  refine run_eq_ok.mpr ⟨[], ?_, rfl⟩
  rw [String.toList_ofList, ← List.append_nil cs]
  exact h [] .nil

/-! ## Readers that look no further than what they take -/

/-- The reader leaves an end of what it is given, and takes the same with more behind it. -/
structure Local (m : Reader α) : Prop where
  suffix {cs a rest} : Takes m cs a rest → rest <:+ cs
  extend {cs a rest more} : Takes m cs a rest → Stops more → Takes m (cs ++ more) a (rest ++ more)

section Local

/-- Giving a value looks at nothing. -/
lemma Local.pure (a : α) : Local (pure a) where
  suffix h := (takes_pure.mp h).2 ▸ List.suffix_rfl
  extend h _ := by
    obtain ⟨rfl, rfl⟩ := takes_pure.mp h
    exact takes_pure.mpr ⟨rfl, rfl⟩

/-- Failing looks at nothing. -/
lemma Local.throw (e : ReadError) : Local (throw e : Reader α) where
  suffix h := (not_takes_throw h).elim
  extend h _ := (not_takes_throw h).elim

/-- Two steps look no further than what they take if neither does. -/
lemma Local.bind {m : Reader α} {f : α → Reader β} (hm : Local m) (hf : ∀ a, Local (f a)) :
    Local (m >>= f) where
  suffix h := by
    obtain ⟨a, mid, h₁, h₂⟩ := takes_bind.mp h
    exact ((hf a).suffix h₂).trans (hm.suffix h₁)
  extend h hs := by
    obtain ⟨a, mid, h₁, h₂⟩ := takes_bind.mp h
    exact takes_bind.mpr ⟨a, mid ++ _, hm.extend h₁ hs, (hf a).extend h₂ hs⟩

/-- A mapped reader looks no further than the reader. -/
lemma Local.map {m : Reader α} (f : α → β) (hm : Local m) : Local (f <$> m) := by
  rw [map_eq_pure_bind]
  exact hm.bind fun a => .pure (f a)

/-- A part that is taken only behind a character of some kind, which no value is followed by. -/
lemma Local.behind {f : List Char → Reader α} {p : Char → Prop} {m : Reader α} {absent : α}
    (hnil : f [] = Pure.pure absent) (hcons : ∀ c cs, ¬ p c → f (c :: cs) = Pure.pure absent)
    (htake : ∀ c cs, p c → f (c :: cs) = (do set cs; m)) (hm : Local m)
    (hp : ∀ c ∈ [',', ']', '\x7d'], ¬ p c) : Local (do f (← get)) where
  suffix {cs a rest} h := by
    have h := takes_get.mp h
    rcases cs with - | ⟨c, cs⟩
    · exact (hnil ▸ Local.pure absent).suffix h
    · by_cases hc : p c
      · rw [htake c cs hc, takes_set] at h
        exact (hm.suffix h).trans (List.suffix_cons c cs)
      · exact (hcons c cs hc ▸ Local.pure absent).suffix h
  extend {cs a rest more} h hs := by
    have h := takes_get.mp h
    refine takes_get.mpr ?_
    rcases cs with - | ⟨c, cs⟩
    · rw [hnil] at h
      obtain ⟨rfl, rfl⟩ := takes_pure.mp h
      -- what stops a value does not pass the test, so the value stays absent
      rcases more with - | ⟨c, more⟩
      · exact hnil ▸ h
      · exact hcons c more (hp c hs.head) ▸ takes_pure.mpr ⟨rfl, rfl⟩
    · by_cases hc : p c
      · rw [htake c cs hc, takes_set] at h
        rw [List.cons_append, htake c _ hc, takes_set]
        exact hm.extend h hs
      · rw [hcons c cs hc] at h
        obtain ⟨rfl, rfl⟩ := takes_pure.mp h
        exact hcons c _ hc ▸ takes_pure.mpr ⟨rfl, rfl⟩

end Local

/-! ## What holds of everything that is taken -/

/-- Whatever the reader takes has the property. -/
def Ensures (m : Reader α) (P : α → Prop) : Prop := ∀ cs a rest, Takes m cs a rest → P a

section Ensures

variable {m : Reader α} {P : α → Prop}

/-- A value that is given has the properties it has. -/
lemma Ensures.pure {a : α} (h : P a) : Ensures (pure a) P := by
  rintro cs a' rest ht
  exact (takes_pure.mp ht).1 ▸ h

/-- Anything holds of the results of a failure. -/
lemma Ensures.throw (e : ReadError) : Ensures (throw e) P :=
  fun _ _ _ h => (not_takes_throw h).elim

/-- Everything that is taken is something. -/
lemma Ensures.trivial (m : Reader α) : Ensures m fun _ => True := fun _ _ _ _ => ⟨⟩

/-- What the first step ensures may be used for what the second ensures. -/
lemma Ensures.bind {f : α → Reader β} {Q : β → Prop} (hm : Ensures m P)
    (hf : ∀ a, P a → Ensures (f a) Q) : Ensures (m >>= f) Q := by
  intro cs b rest h
  obtain ⟨a, mid, h₁, h₂⟩ := takes_bind.mp h
  exact hf a (hm cs a mid h₁) mid b rest h₂

/-- The value of a step may be anything if what follows has the property for all of them. -/
lemma Ensures.after {f : α → Reader β} {Q : β → Prop} (hf : ∀ a, Ensures (f a) Q) :
    Ensures (m >>= f) Q :=
  (Ensures.trivial m).bind fun a _ => hf a

/-- What is ensured of a value carries over to what it is mapped to. -/
lemma Ensures.map {Q : β → Prop} {f : α → β} (hm : Ensures m P) (hf : ∀ a, P a → Q (f a)) :
    Ensures (do return f (← m)) Q :=
  hm.bind fun a h => .pure (hf a h)

end Ensures

end GridRows.Json.Reader
