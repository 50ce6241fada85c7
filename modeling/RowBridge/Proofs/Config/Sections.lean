/-
# `RowBridge.Proofs.Config.Sections` — what the sections of the settings say

The settings have three sections, each a record of values.

    section    must say    has, if nothing is said
    service    its name    the log level `info`, the environment `dev`
    stream                 its defaults, and no bound on scans
    database   its url     fifty connections, five of them idle, ten seconds, five retries
                           after two seconds; the section may be left out

`ServiceSettings.describes` and the two beside it say this of the forms;
`Settings.ofTree_eq_ok_iff` puts the sections together, and `settle_cases` says what
comes of settings that have them.
-/
import RowBridge.Config.Layers
import RowBridge.Proofs.Config.Records

namespace RowBridge

open Config

/-! ## The sections -/

def Config.Value.fields : Value → List (String × Value)
  | .table fields => fields
  | _ => []

namespace ServiceSettings

def places : List Place := [
  ⟨"name", .text, none⟩,
  ⟨"log_level", .text, some (.text "info")⟩,
  ⟨"environment", .text, some (.text "dev")⟩]

theorem describes : form.Describes places (·.value.fields) where
  nodup := by decide
  length_eq := rfl
  fills := by
    refine List.forall_mem_cons.mpr ⟨?name, List.forall_mem_cons.mpr ⟨?level,
      List.forall_mem_singleton.mpr ?environment⟩⟩
    case name => exact RecordField.mustHave_fills Reader.text_reads fun _ _ => rfl
    case level => exact RecordField.mayHave_fills Reader.text_reads (fun _ _ => rfl) rfl
    case environment => exact RecordField.mayHave_fills Reader.text_reads (fun _ _ => rfl) rfl
  faithful := by
    intro s s' h
    obtain ⟨hname, h⟩ := List.forall_mem_cons.mp h
    obtain ⟨hlevel, h⟩ := List.forall_mem_cons.mp h
    have henvironment := List.forall_mem_singleton.mp h
    cases s
    cases s'
    cases hname
    cases hlevel
    cases henvironment
    rfl

end ServiceSettings

namespace StreamSettings

def places : List Place := [
  ⟨"queue_size", .whole 18446744073709551616, some (.unsigned 100)⟩,
  ⟨"buffer_timeout_ms", .whole 18446744073709551616, some (.unsigned 10000)⟩,
  ⟨"max_concurrent_scans", .maybe (.whole 18446744073709551616), some .absent⟩,
  ⟨"shutdown_timeout_secs", .whole 18446744073709551616, some (.unsigned 5)⟩]

theorem describes : form.Describes places (·.value.fields) where
  nodup := by decide
  length_eq := rfl
  fills := by
    refine List.forall_mem_cons.mpr ⟨?size, List.forall_mem_cons.mpr ⟨?timeout,
      List.forall_mem_cons.mpr ⟨?scans, List.forall_mem_singleton.mpr ?shutdown⟩⟩⟩
    case size =>
      exact RecordField.mayHave_fills (Reader.below_reads _ _) (fun _ _ => rfl) rfl
    case timeout =>
      exact RecordField.mayHave_fills (Reader.below_reads _ _) (fun _ _ => rfl) rfl
    case scans =>
      exact RecordField.mayHave_fills (Reader.optional_reads (Reader.below_reads _ _))
        (fun _ _ => rfl) rfl
    case shutdown =>
      exact RecordField.mayHave_fills (Reader.below_reads _ _) (fun _ _ => rfl) rfl
  faithful := by
    intro s s' h
    obtain ⟨hsize, h⟩ := List.forall_mem_cons.mp h
    obtain ⟨htimeout, h⟩ := List.forall_mem_cons.mp h
    obtain ⟨hscans, h⟩ := List.forall_mem_cons.mp h
    have hshutdown := List.forall_mem_singleton.mp h
    obtain ⟨size, timeout, scans, shutdown⟩ := s
    obtain ⟨size', timeout', scans', shutdown'⟩ := s'
    cases hsize
    cases htimeout
    cases hshutdown
    cases scans <;> cases scans' <;> cases hscans <;> rfl

end StreamSettings

namespace DatabaseSettings

def places : List Place := [
  ⟨"url", .text, none⟩,
  ⟨"max_connections", .whole 4294967296, some (.unsigned 50)⟩,
  ⟨"min_connections", .whole 4294967296, some (.unsigned 5)⟩,
  ⟨"connection_timeout_secs", .whole 18446744073709551616, some (.unsigned 10)⟩,
  ⟨"max_retries", .whole 4294967296, some (.unsigned 5)⟩,
  ⟨"retry_delay_secs", .whole 18446744073709551616, some (.unsigned 2)⟩]

theorem describes : form.Describes places (·.value.fields) where
  nodup := by decide
  length_eq := rfl
  fills := by
    refine List.forall_mem_cons.mpr ⟨?url, ?numbers⟩
    case url => exact RecordField.mustHave_fills Reader.text_reads fun _ _ => rfl
    case numbers =>
      have hnumber : ∀ {name set limit kind n},
          (∀ v (s : DatabaseSettings),
            (set v s).value.fields = putField name (.unsigned v) s.value.fields) →
          (ofUrl "").value.fields.lookup name = some (.unsigned n) →
          (RecordField.mayHave name (Reader.below limit kind) set).Fills
            ⟨name, .whole limit, some (.unsigned n)⟩ (·.value.fields) form.blank :=
        fun hset hblank => RecordField.mayHave_fills (Reader.below_reads _ _) hset hblank
      refine List.forall_mem_cons.mpr ⟨?_, List.forall_mem_cons.mpr ⟨?_,
        List.forall_mem_cons.mpr ⟨?_, List.forall_mem_cons.mpr ⟨?_,
        List.forall_mem_singleton.mpr ?_⟩⟩⟩⟩
      all_goals exact hnumber (fun _ _ => rfl) rfl
  faithful := by
    intro s s' h
    obtain ⟨hurl, h⟩ := List.forall_mem_cons.mp h
    obtain ⟨hmax, h⟩ := List.forall_mem_cons.mp h
    obtain ⟨hmin, h⟩ := List.forall_mem_cons.mp h
    obtain ⟨htimeout, h⟩ := List.forall_mem_cons.mp h
    obtain ⟨hretries, h⟩ := List.forall_mem_cons.mp h
    have hdelay := List.forall_mem_singleton.mp h
    cases s
    cases s'
    cases hurl
    cases hmax
    cases hmin
    cases htimeout
    cases hretries
    cases hdelay
    rfl

end DatabaseSettings

/-! ## All of the settings -/

namespace Settings

open RecordForm Taking

/-- What is read in the place of the database, where a section may be left out. -/
def ReadsDatabase (found : Option Tree) (d : Option DatabaseSettings) : Prop :=
  match found with
  | some t => Reader.optional DatabaseSettings.form.read ["database"] t = .ok d
  | none => d = none

theorem readsDatabase_absent {source : Source} {d : Option DatabaseSettings} :
    ReadsDatabase (some (.leaf source .absent)) d ↔ d = none :=
  ⟨fun h => (Except.ok.inj h).symm, fun h => h ▸ rfl⟩

theorem readsDatabase_some {t : Tree} (ht : ∀ source, t ≠ .leaf source .absent)
    {d : Option DatabaseSettings} : ReadsDatabase (some t) d ↔
      ∃ d', d = some d' ∧ DatabaseSettings.form.read ["database"] t = .ok d' := by
  have hread : Reader.optional DatabaseSettings.form.read ["database"] t =
      (DatabaseSettings.form.read ["database"] t).map some := by
    unfold Reader.optional
    split
    next source => exact absurd rfl (ht source)
    · rfl
  rw [ReadsDatabase, hread]
  constructor
  · intro h
    obtain ⟨d', hd', rfl⟩ := exists_of_map_eq_ok h
    exact ⟨d', rfl, hd'⟩
  · rintro ⟨d', rfl, hd'⟩
    rw [hd']
    rfl

/-- Settings have their sections from these fields. -/
structure Sections (fields : List (String × Tree)) (s : Settings) : Prop where
  service : ∃ t, fields.lookup "service" = some t ∧
    ServiceSettings.form.read ["service"] t = .ok s.service
  stream : match fields.lookup "stream" with
    | some t => StreamSettings.form.read ["stream"] t = .ok s.stream
    | none => s.stream = .default
  database : ReadsDatabase (fields.lookup "database") s.database

theorem names_nodup : form.names.Nodup := by decide

section
variable {fields : List (String × Tree)} (hfields : Ascending fields)
include hfields

theorem sections_of_takeAll {s : Settings}
    (htaken : takeAll (form.fieldTakings [] fields) form.blank = .ok s)
    (hcomplete : form.Complete fields) : Sections fields s where
  service := by
    have hseen := takeAll_fieldTakings_seen Settings.service names_nodup (.head _)
      (fun _ _ => rfl) (List.forall_mem_cons.mpr ⟨fun hne => absurd rfl hne,
        List.forall_mem_cons.mpr ⟨fun _ => RecordField.leaves_of_set fun _ _ => rfl,
        List.forall_mem_singleton.mpr fun _ => RecordField.leaves_of_set fun _ _ => rfl⟩⟩)
      hfields htaken
    have hsome : (fields.lookup "service").isSome := hcomplete _ (.head _) rfl
    obtain ⟨t, hlookup⟩ := Option.isSome_iff_exists.mp hsome
    rw [hlookup] at hseen
    exact ⟨t, hlookup, hseen⟩
  stream :=
    takeAll_fieldTakings_seen Settings.stream names_nodup (.tail _ (.head _))
      (fun _ _ => rfl) (List.forall_mem_cons.mpr
        ⟨fun _ => RecordField.leaves_of_set fun _ _ => rfl,
        List.forall_mem_cons.mpr ⟨fun hne => absurd rfl hne,
        List.forall_mem_singleton.mpr fun _ => RecordField.leaves_of_set fun _ _ => rfl⟩⟩)
      hfields htaken
  database :=
    takeAll_fieldTakings_seen Settings.database names_nodup (.tail _ (.tail _ (.head _)))
      (fun _ _ => rfl) (List.forall_mem_cons.mpr
        ⟨fun _ => RecordField.leaves_of_set fun _ _ => rfl,
        List.forall_mem_cons.mpr ⟨fun _ => RecordField.leaves_of_set fun _ _ => rfl,
        List.forall_mem_singleton.mpr fun hne => absurd rfl hne⟩⟩)
      hfields htaken

/-- No field of a table with these sections fails. -/
theorem Sections.takes {s : Settings} (h : Sections fields s) :
    ∀ g ∈ form.fieldTakings [] fields, ∃ set, g.take = .ok set := by
  intro g hg
  obtain ⟨hmem, hpath, hfind⟩ := mem_fieldTakings.mp hg
  have hlookup := hfields.lookup_of_mem hmem
  have hfield : g.field ∈ form.fields := List.mem_of_find?_eq_some hfind
  obtain ⟨path, field, t⟩ := g
  simp only [Taking.name] at hpath hlookup
  subst hpath
  have htake : ∀ {β : Type} {x : Except Fault β} {v : β} (set : β → Settings → Settings),
      x = .ok v → ∃ set', x.map set = .ok set' := by
    rintro β x v set rfl
    exact ⟨set v, rfl⟩
  rcases hfield with _ | ⟨_, _ | ⟨_, _ | ⟨_, hnone⟩⟩⟩
  · obtain ⟨t', hlookup', hread⟩ := h.service
    obtain rfl := Option.some.inj (hlookup'.symm.trans hlookup)
    exact htake _ hread
  · have hread := h.stream
    rw [show fields.lookup "stream" = some t from hlookup] at hread
    exact htake _ hread
  · have hread := h.database
    rw [show fields.lookup "database" = some t from hlookup] at hread
    exact htake _ hread
  · cases hnone

end

/-- Settings with the same sections are the same. -/
theorem Sections.unique {fields : List (String × Tree)} {s s' : Settings}
    (h : Sections fields s) (h' : Sections fields s') : s = s' := by
  obtain ⟨⟨t, hlookup, hservice⟩, hstream, hdatabase⟩ := h
  obtain ⟨⟨t', hlookup', hservice'⟩, hstream', hdatabase'⟩ := h'
  obtain rfl := Option.some.inj (hlookup.symm.trans hlookup')
  obtain ⟨service, stream, database⟩ := s
  obtain ⟨service', stream', database'⟩ := s'
  obtain rfl : service = service' := Except.ok.inj (hservice.symm.trans hservice')
  have hsame : stream = stream' := by
    cases hfound : fields.lookup "stream" with
    | some t =>
        rw [hfound] at hstream hstream'
        exact Except.ok.inj (hstream.symm.trans hstream')
    | none =>
        rw [hfound] at hstream hstream'
        exact hstream.trans hstream'.symm
  have hsame' : database = database' := by
    cases hfound : fields.lookup "database" with
    | some t =>
        rw [hfound] at hdatabase hdatabase'
        exact Except.ok.inj (hdatabase.symm.trans hdatabase')
    | none =>
        rw [hfound] at hdatabase hdatabase'
        exact hdatabase.trans hdatabase'.symm
  rw [hsame, hsame']

/-- Settings are read from a table exactly if each section is. -/
theorem ofTree_eq_ok_iff {source : Source} {fields : List (String × Tree)}
    (hfields : Ascending fields) {s : Settings} :
    ofTree (.branch source fields) = .ok s ↔ Sections fields s := by
  constructor
  · intro h
    obtain ⟨htaken, hcomplete⟩ := read_table_eq_ok_iff.mp h
    exact sections_of_takeAll hfields htaken hcomplete
  · intro h
    have hcomplete : form.Complete fields := by
      refine List.forall_mem_cons.mpr ⟨fun _ => ?_, List.forall_mem_cons.mpr
        ⟨fun hfalse => (nomatch hfalse),
        List.forall_mem_singleton.mpr fun hfalse => nomatch hfalse⟩⟩
      obtain ⟨t, hlookup, -⟩ := h.service
      exact Option.isSome_iff_exists.mpr ⟨t, hlookup⟩
    obtain ⟨s', htaken⟩ := (exists_takeAll_iff form.blank).mpr (h.takes hfields)
    obtain rfl := (sections_of_takeAll hfields htaken hcomplete).unique h
    exact read_table_eq_ok_iff.mpr ⟨htaken, hcomplete⟩

end Settings

namespace Config

/-! ## Settings with a meaning -/

theorem settle_cases (t : Tree) :
    (∃ fault, Settings.ofTree t = .error fault ∧ settle t = .error (.unfit fault)) ∨
    ∃ s, Settings.ofTree t = .ok s ∧
      ((∃ e, s.stream.validate = .error e ∧ settle t = .error (.refused e)) ∨
        s.stream.validate = .ok () ∧ settle t = .ok s) := by
  unfold settle
  cases Settings.ofTree t with
  | error fault => exact .inl ⟨fault, rfl, rfl⟩
  | ok s =>
      refine .inr ⟨s, rfl, ?_⟩
      cases hvalid : s.stream.validate with
      | error e => exact .inl ⟨e, rfl, by simp only [hvalid]⟩
      | ok _ => exact .inr ⟨rfl, by simp only [hvalid]⟩

theorem settle_eq_ok_iff {t : Tree} {s : Settings} :
    settle t = .ok s ↔ Settings.ofTree t = .ok s ∧ s.stream.validate = .ok () := by
  obtain ⟨fault, hread, h⟩ | ⟨s', hread, ⟨e, hvalid, h⟩ | ⟨hvalid, h⟩⟩ := settle_cases t
  · simp [hread, h]
  · simp only [hread, h, Except.ok.injEq, reduceCtorEq, false_iff, not_and]
    rintro rfl hvalid'
    exact nomatch hvalid.symm.trans hvalid'
  · simp only [hread, h, Except.ok.injEq, iff_self_and]
    rintro rfl
    exact hvalid

theorem settle_eq_refused_iff {t : Tree} {e : Error} :
    settle t = .error (.refused e) ↔
      ∃ s, Settings.ofTree t = .ok s ∧ s.stream.validate = .error e := by
  obtain ⟨fault, hread, h⟩ | ⟨s', hread, ⟨e', hvalid, h⟩ | ⟨hvalid, h⟩⟩ := settle_cases t
  · simp [hread, h]
  · simp [hread, h, hvalid]
  · simp [hread, h, hvalid]

theorem settle_eq_unfit_iff {t : Tree} :
    (∃ fault, settle t = .error (.unfit fault)) ↔ ¬ ∃ s, Settings.ofTree t = .ok s := by
  obtain ⟨fault, hread, h⟩ | ⟨s', hread, ⟨e', hvalid, h⟩ | ⟨hvalid, h⟩⟩ := settle_cases t
  · simp [hread, h]
  · simp [hread, h]
  · simp [hread, h]

theorem settle_error_cases {t : Tree} {e : LoadError} (h : settle t = .error e) :
    (∃ fault, e = .unfit fault) ∨ ∃ error, e = .refused error := by
  obtain ⟨fault, -, h'⟩ | ⟨s', -, ⟨e', -, h'⟩ | ⟨-, h'⟩⟩ := settle_cases t
  · cases h.symm.trans h'
    exact .inl ⟨fault, rfl⟩
  · cases h.symm.trans h'
    exact .inr ⟨e', rfl⟩
  · cases h.symm.trans h'

/-- Files that can be read are laid over what is built in, and an environment that can be
read over them. -/
theorem load_eq_settle {files : List File} {vars : List (String × String)} {environment : Tree}
    {trees : List Tree} (henvironment : Environment.tree vars = .ok environment)
    (htrees : files.mapM File.tree = .ok trees) :
    load files vars = settle (overlay (trees ++ [environment])) := by
  rw [load, henvironment, htrees]
  rfl

end Config
end RowBridge
