/-
# `RowBridge.Proofs.Config.Extraction` — settings out of what layers say

What settings are read from a stack of layers is said here without any reader.
Each section has its places, and something is said in a place, or nothing
(`Section`).  A place is filled with the value of what is said there, if that fits,
and else with what stands there if nothing is said (`Place.fill?`).

    section    said by
    service    what prevails below `service`
    stream     what prevails below `stream`
    database   what prevails below `database`, or the items of a list said in its place;
               it is left out if nothing prevails there

`Extracted` says which settings that makes, `Missing` and `Misfit` why there are none.
-/
import RowBridge.Proofs.Config.Priority
import RowBridge.Proofs.Config.Sections

namespace RowBridge.Config

/-! ## What fills a place -/

/-- What is said in a section, at each of its places. -/
abbrev Section := String → Option Said

/-- The value that stands in a place where this is said, or nothing is. -/
def Place.fill? (place : Place) : Option Said → Option Value
  | none => place.unsaid
  | some (.value v) => place.kind.value? v
  | some .table => none

/-- A record has in each of its places what fills it. -/
def Makes (places : List Place) (said : Section) (fields : List (String × Value)) : Prop :=
  ∀ place ∈ places, ∃ v, place.fill? (said place.name) = some v ∧
    fields.lookup place.name = some v

/-- Nothing is said in a place where something must be. -/
def Lacks (places : List Place) (said : Section) : Prop :=
  ∃ place ∈ places, said place.name = none ∧ place.unsaid = none

/-- Something is said in a place that does not fit there. -/
def Misfits (places : List Place) (said : Section) : Prop :=
  ∃ place ∈ places, ∃ what, said place.name = some what ∧ place.fill? (some what) = none

theorem lacks_or_misfits_iff {places : List Place} {said : Section} :
    Lacks places said ∨ Misfits places said ↔
      ¬ ∀ place ∈ places, ∃ v, place.fill? (said place.name) = some v := by
  constructor
  · rintro (⟨place, hplace, hnone, hunsaid⟩ | ⟨place, hplace, what, hwhat, hfill⟩) hall
    · obtain ⟨v, hv⟩ := hall place hplace
      rw [hnone] at hv
      exact nomatch hunsaid.symm.trans hv
    · obtain ⟨v, hv⟩ := hall place hplace
      rw [hwhat] at hv
      exact nomatch hfill.symm.trans hv
  · intro hnot
    refine Classical.byContradiction fun hnone => hnot fun place hplace => ?_
    cases hfill : place.fill? (said place.name) with
    | some v => exact ⟨v, rfl⟩
    | none =>
        refine absurd ?_ hnone
        cases hsaid : said place.name with
        | none => exact .inl ⟨place, hplace, hsaid, by rwa [hsaid] at hfill⟩
        | some what => exact .inr ⟨place, hplace, what, hsaid, by rwa [hsaid] at hfill⟩

/-! ## Parts of a record -/

theorem Kind.value?_table (kind : Kind) (fields : List (String × Value)) :
    kind.value? (.table fields) = none := by
  induction kind with
  | text => rfl
  | whole limit => rfl
  | maybe kind ih => exact ih

theorem Kind.ofTree?_ofValue (kind : Kind) (source : Source) (v : Value) :
    kind.ofTree? (.ofValue source v) = kind.value? v := by
  cases v with
  | table fields =>
      rw [Tree.ofValue, kind.value?_table]
      rfl
  | _ => rfl

theorem Place.value?_eq_fill? {place : Place} {parts : List (String × Tree)}
    (habsent : ∀ source, parts.lookup place.name = some (.leaf source .absent) →
      place.kind.value? .absent = place.unsaid) :
    place.value? parts = place.fill? ((parts.lookup place.name).bind Tree.saying?) := by
  rw [Place.value?]
  cases hlookup : parts.lookup place.name with
  | none => rfl
  | some t =>
      cases t with
      | branch source fields => rfl
      | leaf source value =>
          cases value with
          | absent => exact habsent source hlookup
          | _ => rfl

theorem lookup_zip_map {α β : Type} (f : α → β) (name : String) (names : List String)
    (items : List α) :
    (names.zip (items.map f)).lookup name = ((names.zip items).lookup name).map f := by
  induction names generalizing items with
  | nil => rfl
  | cons n names ih =>
      cases items with
      | nil => rfl
      | cons item items =>
          rw [List.map_cons, List.zip_cons_cons, List.zip_cons_cons, List.lookup_cons,
            List.lookup_cons, ih]
          cases name == n <;> rfl

/-- A list says a section by its items, in the order of the places. -/
def listed (names : List String) (items : List Value) : Section :=
  fun name => ((names.zip items).lookup name).map .value

theorem Place.value?_items (place : Place) (names : List String) (source : Source)
    (items : List Value) : place.value? (names.zip (items.map (.ofValue source))) =
      place.fill? (listed names items place.name) := by
  rw [Place.value?, listed, lookup_zip_map]
  cases (names.zip items).lookup place.name with
  | none => rfl
  | some v => exact place.kind.ofTree?_ofValue source v

/-! ## Sections -/

section
variable {α : Type} {form : RecordForm α} {places : List Place}
  {written : α → List (String × Value)} (h : form.Describes places written)
  {t : Tree} (ht : t.Ordered) {parts : List (String × Tree)} (hparts : form.parts? t = some parts)
  {said : Section}
  (hsaid : ∀ place ∈ places, place.value? parts = place.fill? (said place.name))
include h ht hparts hsaid

/-- A section is read from its parts as it is said by them. -/
theorem RecordForm.Describes.read_eq_ok_iff_makes {path : List String} {record : α} :
    form.read path t = .ok record ↔ Makes places said (written record) := by
  rw [h.read_eq_ok_iff ht, hparts]
  constructor
  · rintro ⟨parts', heq, hvalues⟩ place hplace
    obtain rfl := Option.some.inj heq
    rw [← hsaid place hplace]
    exact hvalues place hplace
  · intro hmakes
    refine ⟨parts, rfl, fun place hplace => ?_⟩
    rw [hsaid place hplace]
    exact hmakes place hplace

theorem RecordForm.Describes.exists_read_iff (path : List String) :
    (∃ record, form.read path t = .ok record) ↔ ¬ (Lacks places said ∨ Misfits places said) := by
  rw [lacks_or_misfits_iff, Classical.not_not]
  constructor
  · rintro ⟨record, hread⟩ place hplace
    obtain ⟨v, hv, -⟩ := (h.read_eq_ok_iff_makes ht hparts hsaid).mp hread place hplace
    exact ⟨v, hv⟩
  · intro hall
    refine h.exists_read ht path hparts fun place hplace => ?_
    rw [hsaid place hplace]
    exact hall place hplace

end

/-- How the database is said. -/
inductive Stated
  | leftOut
  | said (parts : Section)
  /-- By a value that is not made of parts. -/
  | otherwise (v : Value)

def sectionOf (layers : List Tree) (name : String) : Section :=
  fun place => prevailing layers [name, place]

def databaseOf (layers : List Tree) : Stated :=
  match prevailing layers ["database"] with
  | none => .leftOut
  | some .table => .said (sectionOf layers "database")
  | some (.value (.list items)) => .said (listed DatabaseSettings.form.names items)
  | some (.value v) => .otherwise v

/-- The database that is said, if one is. -/
def Stated.Makes : Stated → Option DatabaseSettings → Prop
  | leftOut, d => d = none
  | said parts, d => ∃ d', d = some d' ∧ Config.Makes DatabaseSettings.places parts d'.value.fields
  | otherwise _, _ => False

def Stated.Lacks : Stated → Prop
  | said parts => Config.Lacks DatabaseSettings.places parts
  | _ => False

def Stated.Misfits : Stated → Prop
  | leftOut => False
  | said parts => Config.Misfits DatabaseSettings.places parts
  | otherwise _ => True

/-- The settings that layers say. -/
structure Extracted (layers : List Tree) (s : Settings) : Prop where
  service : Makes ServiceSettings.places (sectionOf layers "service") s.service.value.fields
  stream : Makes StreamSettings.places (sectionOf layers "stream") s.stream.value.fields
  database : (databaseOf layers).Makes s.database

/-- Layers say nothing where something must be said. -/
def Missing (layers : List Tree) : Prop :=
  Lacks ServiceSettings.places (sectionOf layers "service") ∨
  Lacks StreamSettings.places (sectionOf layers "stream") ∨ (databaseOf layers).Lacks

/-- What prevails in some place does not fit there. -/
def Misfit (layers : List Tree) : Prop :=
  Misfits ServiceSettings.places (sectionOf layers "service") ∨
  Misfits StreamSettings.places (sectionOf layers "stream") ∨ (databaseOf layers).Misfits

/-! ## The built-in layer -/

theorem builtIn_ordered : builtIn.Ordered := by
  have hvalues : ∀ {fields : List (String × Value)},
      fields.Pairwise (·.1 < ·.1) → (∀ f ∈ fields, ∀ fs, f.2 ≠ .table fs) →
      (Tree.ofValue .defaults (.table fields)).Ordered := by
    intro fields hascending hflat
    rw [Tree.ofValue, Tree.ofFields_eq_map]
    refine .branch (ascending_map hascending _) fun f hf => ?_
    obtain ⟨⟨name, v⟩, hmem, rfl⟩ := List.mem_map.mp hf
    cases v with
    | table fs => exact absurd rfl (hflat _ hmem fs)
    | _ => exact .leaf _ _
  refine .branch (by unfold Ascending; decide) (List.forall_mem_cons.mpr ⟨.leaf _ _,
    List.forall_mem_cons.mpr ⟨hvalues (by decide) ?_,
    List.forall_mem_singleton.mpr (hvalues (by decide) ?_)⟩⟩)
  · simp
  · simp [Settings.default, StreamSettings.default]

/-- The built-in layer is silent in a place only if that is worth what stands there if
nothing is said. -/
def SilentWhereUnsaid (name : String) (places : List Place) : Prop :=
  ∀ place ∈ places, ∀ source, builtIn.at? [name, place.name] = some (.leaf source .absent) →
    place.kind.value? .absent = place.unsaid

theorem silentWhereUnsaid_service : SilentWhereUnsaid "service" ServiceSettings.places :=
  List.forall_mem_cons.mpr ⟨fun _ h => (nomatch h), List.forall_mem_cons.mpr
    ⟨fun _ h => (nomatch h), List.forall_mem_singleton.mpr fun _ h => nomatch h⟩⟩

theorem silentWhereUnsaid_stream : SilentWhereUnsaid "stream" StreamSettings.places :=
  List.forall_mem_cons.mpr ⟨fun _ h => (nomatch h), List.forall_mem_cons.mpr
    ⟨fun _ h => (nomatch h), List.forall_mem_cons.mpr
    ⟨fun _ _ => rfl, List.forall_mem_singleton.mpr fun _ h => nomatch h⟩⟩⟩

theorem silentWhereUnsaid_database (places : List Place) :
    SilentWhereUnsaid "database" places := by
  intro place _ source hat
  have hnone : builtIn.at? ["database", place.name] = none := rfl
  rw [hnone] at hat
  cases hat

/-! ## All of the settings -/

section
variable {layers : List Tree} (hspoken : ∀ t ∈ layers, t.Spoken)
include hspoken

theorem overlay_ordered : (overlay layers).Ordered := ordered_foldl_merge builtIn_ordered hspoken

variable (hagree : Agree (builtIn :: layers))
include hagree

/-- What all layers say together at a path is what prevails there. -/
theorem said?_overlay (path : List String) :
    (overlay layers).said? path = prevailing (builtIn :: layers) path :=
  said?_foldl_merge builtIn_ordered hspoken hagree path

theorem at?_overlay_of_builtIn (path : List String) (h : builtIn.said? path = some .table) :
    ∃ source fields, (overlay layers).at? path = some (.branch source fields) := by
  rw [← Tree.said?_eq_table_iff, said?_overlay hspoken hagree]
  exact hagree.prevailing_table (.head _) h

theorem value?_eq_fill? {name : String} {source : Source} {parts : List (String × Tree)}
    (hat : (overlay layers).at? [name] = some (.branch source parts)) {places : List Place}
    (hsilent : SilentWhereUnsaid name places) : ∀ place ∈ places,
      place.value? parts = place.fill? (sectionOf (builtIn :: layers) name place.name) := by
  intro place hplace
  have hpart : (overlay layers).at? [name, place.name] = parts.lookup place.name :=
    Tree.at?_concat hat place.name
  rw [sectionOf, ← said?_overlay hspoken hagree, Tree.said?, hpart]
  refine Place.value?_eq_fill? fun source hlookup => hsilent place hplace source ?_
  exact absent_of_foldl_merge builtIn_ordered hspoken (hpart.trans hlookup)

/-- Settings are read from the two sections that the built-in layer has, and from what
stands in the place of the database. -/
theorem exists_sections : ∃ source parts source' parts',
    (overlay layers).at? ["service"] = some (.branch source parts) ∧
    (overlay layers).at? ["stream"] = some (.branch source' parts') ∧
    ∀ s, Settings.ofTree (overlay layers) = .ok s ↔
      ServiceSettings.form.read ["service"] (.branch source parts) = .ok s.service ∧
      StreamSettings.form.read ["stream"] (.branch source' parts') = .ok s.stream ∧
      Settings.ReadsDatabase ((overlay layers).at? ["database"]) s.database := by
  obtain ⟨root, fields, hroot⟩ := at?_overlay_of_builtIn hspoken hagree [] rfl
  have hwhole : overlay layers = .branch root fields := Option.some.inj hroot
  have hascending : Ascending fields := (hwhole ▸ overlay_ordered hspoken).fields.ascending
  have hat : ∀ name, (overlay layers).at? [name] = fields.lookup name := fun name => by
    rw [Tree.at?_singleton, hwhole]
    rfl
  obtain ⟨source, parts, hservice⟩ :=
    at?_overlay_of_builtIn hspoken hagree ["service"] rfl
  obtain ⟨source', parts', hstream⟩ :=
    at?_overlay_of_builtIn hspoken hagree ["stream"] rfl
  refine ⟨source, parts, source', parts', hservice, hstream, fun s => ?_⟩
  rw [hat] at hservice hstream
  rw [hat, hwhole, Settings.ofTree_eq_ok_iff hascending]
  constructor
  · rintro ⟨⟨t, ht, hread⟩, hread', hread''⟩
    obtain rfl := Option.some.inj (hservice.symm.trans ht)
    rw [hstream] at hread'
    exact ⟨hread, hread', hread''⟩
  · rintro ⟨hread, hread', hread''⟩
    refine ⟨⟨_, hservice, hread⟩, ?_, hread''⟩
    rw [hstream]
    exact hread'

section
variable {α : Type} {form : RecordForm α} {places : List Place}
  {written : α → List (String × Value)} (h : form.Describes places written) {name : String}
  (hsilent : SilentWhereUnsaid name places) {source : Source} {parts : List (String × Tree)}
  (hat : (overlay layers).at? [name] = some (.branch source parts))
include h hsilent hat

theorem read_section_eq_ok_iff {path : List String} {record : α} :
    form.read path (.branch source parts) = .ok record ↔
      Makes places (sectionOf (builtIn :: layers) name) (written record) :=
  h.read_eq_ok_iff_makes ((overlay_ordered hspoken).at? hat) rfl
    (value?_eq_fill? hspoken hagree hat hsilent)

theorem exists_read_section_iff (path : List String) :
    (∃ record, form.read path (.branch source parts) = .ok record) ↔
      ¬ (Lacks places (sectionOf (builtIn :: layers) name) ∨
        Misfits places (sectionOf (builtIn :: layers) name)) :=
  h.exists_read_iff ((overlay_ordered hspoken).at? hat) rfl
    (value?_eq_fill? hspoken hagree hat hsilent) path

end

/-- How the tree in the place of the database says it. -/
theorem databaseOf_cases :
    (databaseOf (builtIn :: layers) = .leftOut ∧
      ∀ t, (overlay layers).at? ["database"] = some t → ∃ source, t = .leaf source .absent) ∨
    ∃ t, (overlay layers).at? ["database"] = some t ∧ (∀ source, t ≠ .leaf source .absent) ∧
      ((∃ parts said, databaseOf (builtIn :: layers) = .said said ∧
        DatabaseSettings.form.parts? t = some parts ∧
        ∀ place ∈ DatabaseSettings.places, place.value? parts = place.fill? (said place.name)) ∨
      (∃ v, databaseOf (builtIn :: layers) = .otherwise v) ∧
        DatabaseSettings.form.parts? t = none) := by
  have hsaid := said?_overlay hspoken hagree ["database"]
  rw [Tree.said?] at hsaid
  rw [databaseOf, ← hsaid]
  cases hat : (overlay layers).at? ["database"] with
  | none => exact .inl ⟨rfl, fun _ h => (by cases h)⟩
  | some t =>
      cases t with
      | branch source parts =>
          refine .inr ⟨_, rfl, fun _ h => (by cases h), .inl ⟨parts, _, rfl, rfl, ?_⟩⟩
          exact value?_eq_fill? hspoken hagree hat (silentWhereUnsaid_database _)
      | leaf source value =>
          cases value with
          | absent =>
              refine .inl ⟨rfl, fun t h => ⟨source, (Option.some.inj h).symm⟩⟩
          | list items =>
              refine .inr ⟨_, rfl, fun _ h => (by cases h), .inl ⟨_, _, rfl, rfl, ?_⟩⟩
              exact fun place _ => place.value?_items _ source items
          | _ => exact .inr ⟨_, rfl, fun _ h => (by cases h), .inr ⟨⟨_, rfl⟩, rfl⟩⟩

theorem readsDatabase_iff {d : Option DatabaseSettings} :
    Settings.ReadsDatabase ((overlay layers).at? ["database"]) d ↔
      (databaseOf (builtIn :: layers)).Makes d := by
  obtain ⟨hof, habsent⟩ | ⟨t, hat, hpresent, ⟨parts, said, hof, hparts, hsaid⟩ |
    ⟨⟨v, hof⟩, hparts⟩⟩ := databaseOf_cases hspoken hagree
  · rw [hof]
    cases hat : (overlay layers).at? ["database"] with
    | none => exact Iff.rfl
    | some t =>
        obtain ⟨source, rfl⟩ := habsent t hat
        exact Settings.readsDatabase_absent
  · rw [hof, hat, Settings.readsDatabase_some hpresent]
    refine exists_congr fun d' => and_congr_right fun _ => ?_
    exact DatabaseSettings.describes.read_eq_ok_iff_makes
      ((overlay_ordered hspoken).at? hat) hparts hsaid
  · rw [hof, hat, Settings.readsDatabase_some hpresent, RecordForm.read_eq_error hparts]
    exact iff_of_false (fun ⟨_, _, h⟩ => nomatch h) id

theorem exists_readsDatabase_iff :
    (∃ d, Settings.ReadsDatabase ((overlay layers).at? ["database"]) d) ↔
      ¬ ((databaseOf (builtIn :: layers)).Lacks ∨ (databaseOf (builtIn :: layers)).Misfits) := by
  obtain ⟨hof, habsent⟩ | ⟨t, hat, hpresent, ⟨parts, said, hof, hparts, hsaid⟩ |
    ⟨⟨v, hof⟩, hparts⟩⟩ := databaseOf_cases hspoken hagree
  · refine iff_of_true ⟨none, (readsDatabase_iff hspoken hagree).mpr (hof ▸ rfl)⟩ ?_
    rw [hof]
    exact fun h => h.elim id id
  · rw [hof, hat]
    refine Iff.trans ?_ (DatabaseSettings.describes.exists_read_iff
      ((overlay_ordered hspoken).at? hat) hparts hsaid ["database"])
    simp only [Settings.readsDatabase_some hpresent]
    exact ⟨fun ⟨_, d', _, h⟩ => ⟨d', h⟩, fun ⟨d', h⟩ => ⟨some d', d', rfl, h⟩⟩
  · rw [hof, hat]
    refine iff_of_false ?_ fun h => h (.inr trivial)
    rintro ⟨d, h⟩
    obtain ⟨d', -, h⟩ := (Settings.readsDatabase_some hpresent).mp h
    rw [RecordForm.read_eq_error hparts] at h
    cases h

/-- The settings that are read are the ones that the layers say. -/
theorem ofTree_overlay_eq_ok_iff {s : Settings} :
    Settings.ofTree (overlay layers) = .ok s ↔ Extracted (builtIn :: layers) s := by
  obtain ⟨source, parts, source', parts', hservice, hstream, hread⟩ :=
    exists_sections hspoken hagree
  rw [hread, read_section_eq_ok_iff hspoken hagree ServiceSettings.describes
      silentWhereUnsaid_service hservice,
    read_section_eq_ok_iff hspoken hagree StreamSettings.describes silentWhereUnsaid_stream hstream,
    readsDatabase_iff hspoken hagree]
  exact ⟨fun ⟨h, h', h''⟩ => ⟨h, h', h''⟩, fun ⟨h, h', h''⟩ => ⟨h, h', h''⟩⟩

/-- No settings are read exactly if something is missing or does not fit. -/
theorem exists_ofTree_overlay_iff :
    (∃ s, Settings.ofTree (overlay layers) = .ok s) ↔
      ¬ (Missing (builtIn :: layers) ∨ Misfit (builtIn :: layers)) := by
  obtain ⟨source, parts, source', parts', hservice, hstream, hread⟩ :=
    exists_sections hspoken hagree
  have hreadservice := exists_read_section_iff hspoken hagree ServiceSettings.describes
    silentWhereUnsaid_service hservice ["service"]
  have hreadstream := exists_read_section_iff hspoken hagree StreamSettings.describes
    silentWhereUnsaid_stream hstream ["stream"]
  have hreaddatabase := exists_readsDatabase_iff hspoken hagree
  have hparts : (∃ s, Settings.ofTree (overlay layers) = .ok s) ↔
      (∃ r, ServiceSettings.form.read ["service"] (.branch source parts) = .ok r) ∧
      (∃ r, StreamSettings.form.read ["stream"] (.branch source' parts') = .ok r) ∧
      ∃ d, Settings.ReadsDatabase ((overlay layers).at? ["database"]) d := by
    constructor
    · rintro ⟨s, hs⟩
      obtain ⟨h, h', h''⟩ := (hread s).mp hs
      exact ⟨⟨_, h⟩, ⟨_, h'⟩, _, h''⟩
    · rintro ⟨⟨service, h⟩, ⟨stream, h'⟩, database, h''⟩
      exact ⟨⟨service, stream, database⟩, (hread _).mpr ⟨h, h', h''⟩⟩
  rw [hparts, hreadservice, hreadstream, hreaddatabase, Missing, Misfit]
  simp only [not_or]
  constructor
  · rintro ⟨⟨hl, hm⟩, ⟨hl', hm'⟩, hl'', hm''⟩
    exact ⟨⟨hl, hl', hl''⟩, hm, hm', hm''⟩
  · rintro ⟨⟨hl, hl', hl''⟩, hm, hm', hm''⟩
    exact ⟨⟨hl, hm⟩, ⟨hl', hm'⟩, hl'', hm''⟩

end

end RowBridge.Config
