import GridRows.Config.Reader
import Mathlib.Tactic.Lemma

/-!
# Layers of settings

A query setting of a data source may be set in the group of the source and in the group for all
sources, and it has a built-in value.  Layering takes the first of the three, setting by setting
(`QuerySetting.layered`); resolving takes the first group that the document has, and of that group all
settings (`Config.resolve_setting`).  The two differ where the group of a source leaves out a setting
that the group for all sources has.

The main statement is `Config.resolve_layers`, which says when they agree.
-/

namespace GridRows

open Toml (Value)

/-! ## What a document sets -/

/-- The member of a group, given the names of the group in their order. -/
def member? (names : List String) (key : String) (group : Value) : Option Value :=
  (settings? names group).bind (·.lookup key)

/-- The query settings that a document has for all data sources. -/
def sharedGroup? (document : Value) : Option Value :=
  (member? ["defaults", "datasources"] "defaults" document).bind (member? ["query"] "query")

/-- The query settings that a document has for the data source of the given name. -/
def ownGroup? (document : Value) (name : String) : Option Value :=
  ((member? ["defaults", "datasources"] "datasources" document).bind (member? [] name)).bind
    (member? ["query", "duckdb", "postgres"] "query")

/-- A query setting: its name and values in documents, its built-in value, and where it is kept. -/
structure QuerySetting (α : Type) where
  name : String
  read? : Value → Option α
  builtIn : α
  get : QueryConfig → α

namespace QuerySetting

/-- The time limit of a statement. -/
def timeout : QuerySetting Nat := ⟨"timeout_ms", countOf?, 30000, (·.timeoutMs)⟩

/-- The largest page. -/
def pageCap : QuerySetting Nat := ⟨"max_page_size", countOf?, 0, (·.maxPageSize)⟩

/-- Whether values are bound. -/
def binding : QuerySetting Bool := ⟨"parameterized", switchOf?, true, (·.parameterized)⟩

/-- Whether a failed statement is answered by its text. -/
def fallback : QuerySetting Bool := ⟨"fallback_on_execution_error", switchOf?, true, (·.fallback)⟩

/-- The query settings. -/
inductive Known : {α : Type} → QuerySetting α → Prop where
  | timeout : Known timeout
  | pageCap : Known pageCap
  | binding : Known binding
  | fallback : Known fallback

variable {α : Type}

/-- What a group of query settings sets the setting to, if it does. -/
def in? (s : QuerySetting α) (group : Value) : Option α :=
  (member? ["timeout_ms", "max_page_size", "parameterized", "fallback_on_execution_error"] s.name
    group).bind s.read?

/-- The setting layered: as the own group has it, else as the shared one has it, else built in. -/
def layered (s : QuerySetting α) (own shared : Option Value) : α :=
  ((own.bind s.in?).or (shared.bind s.in?)).getD s.builtIn

end QuerySetting

/-! ## What is read of a document -/

section Reading

variable {α : Type}

/-- A setting is what its entry is read as, or the default without an entry. -/
lemma settingOr_eq {entries : List (String × Value)} {name : String} {read? : Value → Option α}
    {default found : α} (h : settingOr entries name read? default = some found) :
    ((entries.lookup name).bind read?).getD default = found := by
  unfold settingOr at h
  cases hl : entries.lookup name with
  | none =>
    rw [hl] at h
    exact Option.some.inj h
  | some v =>
    rw [hl] at h
    have h : read? v = some found := h
    rw [Option.bind_some, h]
    rfl

/-- A group has its settings as it sets them, and the others built in. -/
lemma QuerySetting.Known.get_ofToml {s : QuerySetting α} (hs : s.Known) {group : Value}
    {c : QueryConfig} (h : QueryConfig.ofToml? group = some c) :
    s.get c = (s.in? group).getD s.builtIn := by
  simp only [QueryConfig.ofToml?, Option.bind_eq_bind, Option.bind_eq_some_iff, Option.pure_def,
    Option.some.injEq] at h
  obtain ⟨entries, he, t, ht, m, hm, b, hb, f, hf, rfl⟩ := h
  have hin : s.in? group = (entries.lookup s.name).bind s.read? := by
    rw [QuerySetting.in?, member?, he]
    rfl
  rw [hin]
  cases hs with
  | timeout => exact (settingOr_eq ht).symm
  | pageCap => exact (settingOr_eq hm).symm
  | binding => exact (settingOr_eq hb).symm
  | fallback => exact (settingOr_eq hf).symm

/-- A known setting without an entry is the built-in one. -/
lemma QuerySetting.Known.get_default {s : QuerySetting α} (hs : s.Known) : s.get {} = s.builtIn := by
  cases hs <;> rfl

/-- A part that may be absent is read if it is there. -/
inductive ReadAs (read? : Value → Option α) : Option Value → Option α → Prop where
  | absent : ReadAs read? none none
  | present {v : Value} {a : α} : read? v = some a → ReadAs read? (some v) (some a)

/-- A setting that may be absent is read from its entry, if there is one. -/
lemma ReadAs.of_settingOr {entries : List (String × Value)} {name : String}
    {read? : Value → Option α} {found : Option α}
    (h : settingOr entries name (fun v => some <$> read? v) none = some found) :
    ReadAs read? (entries.lookup name) found := by
  unfold settingOr at h
  cases hl : entries.lookup name with
  | none =>
    rw [hl] at h
    cases h
    exact .absent
  | some v =>
    rw [hl] at h
    obtain ⟨a, ha, rfl⟩ := Option.map_eq_some_iff.mp h
    exact .present ha

/-- Reading the data sources one by one keeps their names. -/
lemma ReadAs.of_mapM {read? : Value → Option α} {entries : List (String × Value)}
    {found : List (String × α)}
    (h : (entries.mapM fun entry => return (entry.1, ← read? entry.2)) = some found)
    (name : String) : ReadAs read? (entries.lookup name) (found.lookup name) := by
  induction entries generalizing found with
  | nil =>
    cases h
    exact .absent
  | cons entry entries ih =>
    obtain ⟨key, v⟩ := entry
    simp only [List.mapM_cons, Option.bind_eq_bind, Option.bind_eq_some_iff, Option.pure_def,
      Option.some.injEq] at h
    obtain ⟨_, ⟨a, ha, rfl⟩, rest, hrest, rfl⟩ := h
    cases hk : name == key with
    | true =>
      rw [List.lookup_cons, List.lookup_cons, hk]
      exact .present ha
    | false =>
      rw [List.lookup_cons, List.lookup_cons, hk]
      exact ih hrest

/-- What a source says of its statements is read from its own group, under any of the names for it. -/
lemma SourceConfig.query_readAs {source : Value} {own : SourceConfig}
    (h : SourceConfig.ofToml? source = some own) :
    ReadAs QueryConfig.ofToml? (member? ["query", "duckdb", "postgres"] "query" source)
      own.query := by
  simp only [SourceConfig.ofToml?, Option.bind_eq_bind, Option.bind_eq_some_iff, Option.pure_def,
    Option.some.injEq] at h
  obtain ⟨entries, he, q, hq, d, -, p, -, rfl⟩ := h
  rw [member?, he]
  exact .of_settingOr hq

end Reading

section Document

variable {document : Value} {c : Config}

/-- The settings for all data sources are those of the shared group. -/
lemma Config.query_shared (h : Config.ofToml? document = some c) {α : Type} {s : QuerySetting α}
    (hs : s.Known) : s.get c.query = ((sharedGroup? document).bind s.in?).getD s.builtIn := by
  simp only [Config.ofToml?, Option.bind_eq_bind, Option.bind_eq_some_iff, Option.pure_def,
    Option.some.injEq] at h
  obtain ⟨entries, he, q, hq, sources, -, rfl⟩ := h
  have hmember : member? ["defaults", "datasources"] "defaults" document =
      entries.lookup "defaults" := by
    rw [member?, he]
    rfl
  rw [sharedGroup?, hmember]
  unfold settingOr at hq
  -- each group on the way to a setting may be missing, and the setting is built in then
  cases hl : entries.lookup "defaults" with
  | none =>
    rw [hl] at hq
    cases hq
    exact hs.get_default
  | some defaults =>
    rw [hl] at hq
    have hq : defaultsOf? defaults = some q := hq
    simp only [defaultsOf?, Option.bind_eq_bind, Option.bind_eq_some_iff] at hq
    obtain ⟨shared, hshared, hq⟩ := hq
    rw [Option.bind_some, member?, hshared]
    unfold settingOr at hq
    show s.get q = ((shared.lookup "query").bind s.in?).getD s.builtIn
    cases hg : shared.lookup "query" with
    | none =>
      rw [hg] at hq
      cases hq
      exact hs.get_default
    | some group =>
      rw [hg] at hq
      exact hs.get_ofToml hq

/-- A data source has query settings of its own if it has a group of them. -/
lemma Config.query_own (h : Config.ofToml? document = some c) (name : String) :
    ReadAs QueryConfig.ofToml? (ownGroup? document name)
      ((c.sources.lookup name).getD {}).query := by
  simp only [Config.ofToml?, Option.bind_eq_bind, Option.bind_eq_some_iff, Option.pure_def,
    Option.some.injEq] at h
  obtain ⟨entries, he, q, -, sources, hsources, rfl⟩ := h
  have hmember : member? ["defaults", "datasources"] "datasources" document =
      entries.lookup "datasources" := by
    rw [member?, he]
    rfl
  unfold settingOr at hsources
  rw [ownGroup?, hmember]
  cases hl : entries.lookup "datasources" with
  | none =>
    rw [hl] at hsources
    cases hsources
    exact .absent
  | some v =>
    rw [hl] at hsources
    cases v with
    | table found =>
      have hread := ReadAs.of_mapM hsources name
      show ReadAs _ ((found.lookup name).bind _) ((sources.lookup name).getD {}).query
      generalize found.lookup name = source at hread ⊢
      generalize sources.lookup name = own at hread ⊢
      cases hread with
      | absent => exact .absent
      | present hown => exact SourceConfig.query_readAs hown
    | _ => cases hsources

/-- Of the group of a data source, or else of the shared one, every setting is taken. -/
lemma Config.resolve_setting (h : Config.ofToml? document = some c) (name : String) {α : Type}
    {s : QuerySetting α} (hs : s.Known) :
    s.get (c.resolve name).query =
      (((ownGroup? document name).or (sharedGroup? document)).bind s.in?).getD s.builtIn := by
  have hown := query_own h name
  have hquery : (c.resolve name).query =
      ((c.sources.lookup name).getD {}).query.getD c.query :=
    rfl
  rw [hquery]
  generalize ownGroup? document name = own at hown ⊢
  generalize ((c.sources.lookup name).getD {}).query = query at hown ⊢
  cases hown with
  | absent => exact query_shared h hs
  | present hread => exact hs.get_ofToml hread

end Document

/-- Taking one group whole agrees with layering unless the group leaves out what the other sets. -/
lemma QuerySetting.whole_eq_layered_iff {α : Type} (s : QuerySetting α) (own shared : Option Value) :
    ((own.or shared).bind s.in?).getD s.builtIn = s.layered own shared ↔
      own = none ∨ (own.bind s.in?).isSome ∨ (shared.bind s.in?).getD s.builtIn = s.builtIn := by
  unfold layered
  cases own with
  | none => simp
  | some group =>
    cases hg : s.in? group with
    | none => simp [hg, eq_comm]
    | some a => simp [hg]

/--
The query settings that hold for a data source, of every document that is a configuration.  All are
those of its own group, or of the shared group if it has none, with the built-in value for each that
the group leaves out.  That is the setting layered exactly if the data source has no group of its own,
or sets the setting there, or the shared group sets it to nothing but its built-in value.
-/
theorem Config.resolve_layers {text : String} {c : Config} (read : Config.read text = .ok c)
    (name : String) {α : Type} {s : QuerySetting α} (known : s.Known) :
    ∃ document, Toml.read text = some document ∧
      let own := ownGroup? document name
      let shared := sharedGroup? document
      s.get (c.resolve name).query = ((own.or shared).bind s.in?).getD s.builtIn ∧
      (s.get (c.resolve name).query = s.layered own shared ↔
        own = none ∨ (own.bind s.in?).isSome ∨
          (shared.bind s.in?).getD s.builtIn = s.builtIn) := by
  unfold Config.read at read
  cases hd : (Toml.read text).bind Config.ofToml? with
  | none =>
    rw [hd] at read
    cases read
  | some found =>
    rw [hd] at read
    cases read
    obtain ⟨document, hdoc, hc⟩ := Option.bind_eq_some_iff.mp hd
    have hwhole := resolve_setting hc name known
    refine ⟨document, hdoc, hwhole, ?_⟩
    rw [hwhole]
    exact s.whole_eq_layered_iff _ _

/-- A page cap for all data sources, and one of them that binds no values. -/
def cappedSources : String :=
  "[defaults.query]\nmax_page_size = 500\n\n[datasources.strict.query]\nparameterized = false\n"

/-- The group of the data source is taken whole, without the page cap that the other one sets. -/
theorem Config.resolve_layers_capped :
    ∃ c document, Config.read cappedSources = .ok c ∧ Toml.read cappedSources = some document ∧
      QuerySetting.pageCap.get (c.resolve "strict").query =
        (((ownGroup? document "strict").or (sharedGroup? document)).bind
          QuerySetting.pageCap.in?).getD 0 := by
  have hok : (Config.read cappedSources).toOption.isSome = true := by decide +kernel
  cases hc : Config.read cappedSources with
  | error fault =>
    rw [hc] at hok
    cases hok
  | ok c =>
    obtain ⟨document, hd, hwhole, -⟩ := resolve_layers hc "strict" .pageCap
    exact ⟨c, document, rfl, hd, hwhole⟩

/-- Setting one thing for a data source changes another: the cap of 500 rows is gone. -/
theorem Config.resolve_not_layered :
    ∃ c document, Config.read cappedSources = .ok c ∧ Toml.read cappedSources = some document ∧
      QuerySetting.binding.get (c.resolve "strict").query = false ∧
      QuerySetting.pageCap.layered (ownGroup? document "strict") (sharedGroup? document) = 500 ∧
      QuerySetting.pageCap.get (c.resolve "strict").query = 0 := by
  have hread : ((Toml.read cappedSources).bind fun document =>
      (Config.ofToml? document).map fun c =>
        (QuerySetting.pageCap.layered (ownGroup? document "strict") (sharedGroup? document),
          (c.resolve "strict").query)) = some (500, ⟨30000, 0, false, true⟩) := by
    decide +kernel
  obtain ⟨document, hd, hread⟩ := Option.bind_eq_some_iff.mp hread
  obtain ⟨c, hc, hread⟩ := Option.map_eq_some_iff.mp hread
  obtain ⟨hlayered, hquery⟩ := Prod.mk.inj hread
  refine ⟨c, document, ?_, hd, ?_, hlayered, ?_⟩
  · rw [Config.read, hd, Option.bind_some, hc]
  · rw [hquery]
    rfl
  · rw [hquery]
    rfl

end GridRows
