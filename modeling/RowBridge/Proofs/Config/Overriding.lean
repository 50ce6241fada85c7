/-
# `RowBridge.Proofs.Config.Overriding` — text settings from the environment

The name of a service, its log level and its environment are texts, and each can be
set by a variable.  What comes of that depends on what the value of the variable is
read as:

    it is read as                     the settings
    a text                            have that text, and nothing else changes
    a number, a list, any other value do not load: a text is expected
    nothing, because reading aborts   do not load: the abort is handed on

So a variable that says `123` does not set a name (`texts_that_do_not_load`).  But a
text says itself unless it looks like something else (`Shorthand.read_plain`), and every
text can be said (`Shorthand.read_spelled`).

The settings are taken to load otherwise: with another value of the variable, or without
it.  In the latter case the service must not be said by a list, as a variable for one
setting of it takes the place of the whole list.
-/
import RowBridge.Proofs.Config.Beside
import RowBridge.Proofs.Config.Extraction
import RowBridge.Proofs.Config.Quoting

namespace RowBridge.Config

/-! ## The settings that are texts -/

inductive TextSetting
  | name
  | logLevel
  | environment

namespace TextSetting

def key : TextSetting → String
  | name => "name"
  | logLevel => "log_level"
  | environment => "environment"

def path (setting : TextSetting) : List String := ["service", setting.key]

/-- The variable that sets it, as it is usually written. -/
def variableName : TextSetting → String
  | name => "ROWFLUX_SERVICE__NAME"
  | logLevel => "ROWFLUX_SERVICE__LOG_LEVEL"
  | environment => "ROWFLUX_SERVICE__ENVIRONMENT"

def put (u : String) : TextSetting → ServiceSettings → ServiceSettings
  | name, s => { s with name := u }
  | logLevel, s => { s with logLevel := u }
  | environment, s => { s with environment := u }

def get : TextSetting → ServiceSettings → String
  | name, s => s.name
  | logLevel, s => s.logLevel
  | environment, s => s.environment

theorem get_put (setting : TextSetting) (u : String) (s : ServiceSettings) :
    setting.get (setting.put u s) = u := by
  cases setting <;> rfl

theorem path?_variableName (setting : TextSetting) :
    Environment.path? setting.variableName = some setting.path := by
  cases setting <;> decide +kernel

theorem fields_put (setting : TextSetting) (u : String) (s : ServiceSettings) :
    (setting.put u s).value.fields = putField setting.key (.text u) s.value.fields := by
  cases setting <;> rfl

/-- Its place in the record of the service, which takes any text and nothing else. -/
theorem exists_field (setting : TextSetting) : ∃ field ∈ ServiceSettings.form.fields,
    field.name = setting.key ∧ ∀ path t, Kind.text.ofTree? t = none →
      field.take path t = .error (Reader.mismatch "a string" path t) := by
  have htext : ∀ {path : List String} {t : Tree}, Kind.text.ofTree? t = none →
      Reader.text path t = .error (Reader.mismatch "a string" path t) := by
    intro path t h
    cases t with
    | branch source fields => rfl
    | leaf source v =>
        cases v with
        | text s => cases h
        | _ => rfl
  have htake : ∀ {α : Type} (set : String → α → α) (path : List String) (t : Tree),
      Kind.text.ofTree? t = none →
      (Reader.text path t).map set = .error (Reader.mismatch "a string" path t) := by
    intro α set path t h
    rw [htext h]
    rfl
  cases setting with
  | name => exact ⟨_, .head _, rfl, htake _⟩
  | logLevel => exact ⟨_, .tail _ (.head _), rfl, htake _⟩
  | environment => exact ⟨_, .tail _ (.tail _ (.head _)), rfl, htake _⟩

end TextSetting

theorem kind_of_mem_places : ∀ place ∈ ServiceSettings.places, place.kind = .text :=
  List.forall_mem_cons.mpr ⟨rfl, List.forall_mem_cons.mpr
    ⟨rfl, List.forall_mem_singleton.mpr rfl⟩⟩

/-! ## What a variable puts in its place -/

/-- A tree stands for a value of the environment, whatever it was laid over. -/
structure Carries (v : Value) (u : Tree) : Prop where
  describe : u.describe = v.describe
  source : u.source = .environment
  text : Kind.text.ofTree? u = Kind.text.value? v

theorem carries_ofValue (v : Value) : Carries v (.ofValue .environment v) := by
  cases v with
  | table fields =>
      rw [Tree.ofValue]
      exact ⟨rfl, rfl, rfl⟩
  | _ => exact ⟨rfl, rfl, rfl⟩

theorem Carries.laidOn {v : Value} {u : Tree} (h : Carries v u) (below : List (String × Tree)) :
    Carries v (u.laidOn below) := by
  obtain ⟨hdescribe, hsource, htext⟩ := h
  cases u with
  | leaf source value =>
      rw [Tree.laidOn]
      exact ⟨hdescribe, hsource, htext⟩
  | branch source fields =>
      rw [Tree.laidOn]
      exact ⟨hdescribe, hsource, htext⟩

/-- What is wrong with a value where a text is expected. -/
def TextSetting.misfit (setting : TextSetting) (v : Value) : Fault :=
  ⟨.invalidType v.describe "a string", setting.path, .environment⟩

namespace TextSetting

section
variable {setting : TextSetting} {source source' : Source} {parts parts' : List (String × Tree)}
  {s : ServiceSettings} {v : Value} {u : Tree}
  (hread : ServiceSettings.form.read ["service"] (.branch source parts) = .ok s)
  (hothers : ∀ name, name ≠ setting.key → parts'.lookup name = parts.lookup name)
  (hpart : parts'.lookup setting.key = some u) (hu : Carries v u)
include hread hothers hpart hu

theorem read_put {w : String} (ht : (Tree.branch source parts).Ordered)
    (ht' : (Tree.branch source' parts').Ordered) (hv : v = .text w) :
    ServiceSettings.form.read ["service"] (.branch source' parts') = .ok (setting.put w s) := by
  obtain ⟨parts₀, heq, hvalues⟩ := (ServiceSettings.describes.read_eq_ok_iff ht).mp hread
  cases heq
  refine (ServiceSettings.describes.read_eq_ok_iff ht').mpr ⟨parts', rfl, fun place hplace => ?_⟩
  rw [Place.value?, setting.fields_put]
  by_cases hname : place.name = setting.key
  · refine ⟨.text w, ?_, ?_⟩
    · rw [hname, hpart]
      simp only [kind_of_mem_places place hplace, hu.text, hv]
      rfl
    · rw [hname]
      exact lookup_putField_self _ _ _
  · obtain ⟨x, hx, hwritten⟩ := hvalues place hplace
    rw [Place.value?, ← hothers _ hname] at hx
    exact ⟨x, hx, (lookup_putField_of_ne hname _ _).trans hwritten⟩

theorem read_misfit (hparts' : Ascending parts') (hv : Kind.text.value? v = none) :
    ServiceSettings.form.read ["service"] (.branch source' parts') =
      .error (setting.misfit v) := by
  obtain ⟨field, hfield, hname, hfail⟩ := setting.exists_field
  rw [← hname] at hothers hpart
  have hfault := hfail (["service"] ++ [field.name]) u (hu.text.trans hv)
  refine (ServiceSettings.form.read_eq_error_of_part ServiceSettings.describes.nodup hparts' hread
    hothers hfield hpart hfault).trans ?_
  rw [Reader.mismatch, hu.describe, hu.source, hname]
  rfl

omit hread hothers hpart hu in
/-- Of two trees beside the place of a text, the one that has a value of the environment
there is read like the other, but for that place. -/
theorem ofTree_of_beside {a b : Tree} (ha : a.Ordered) (hb : b.Ordered)
    (h : a.Beside setting.path b) (hfree : ¬ a.Cuts setting.path) {s : Settings}
    (hread : Settings.ofTree a = .ok s) (hat : b.at? setting.path = some u) (hu : Carries v u) :
    (∀ w, v = .text w →
      Settings.ofTree b = .ok { s with service := setting.put w s.service }) ∧
    (Kind.text.value? v = none → Settings.ofTree b = .error (setting.misfit v)) := by
  have hfree' : ¬ b.Cuts setting.path := Tree.not_cuts_of_at? hat
  obtain ⟨source, fields, rfl⟩ := Tree.exists_branch_of_not_cuts hfree []
    rfl (List.cons_ne_nil _ _) rfl
  obtain ⟨source', fields', rfl⟩ := Tree.exists_branch_of_not_cuts hfree' []
    rfl (List.cons_ne_nil _ _) rfl
  have hfields : Ascending fields := ha.fields.ascending
  have hfields' : Ascending fields' := hb.fields.ascending
  have hrest : ∀ name, name ≠ "service" → fields'.lookup name = fields.lookup name := by
    intro name hname
    have hsame := h [name] (apart_of_ne [] hname)
    rw [Tree.at?_singleton, Tree.at?_singleton] at hsame
    exact hsame.symm
  have hsections := (Settings.ofTree_eq_ok_iff hfields).mp hread
  obtain ⟨t, hlookup, hservice⟩ := hsections.service
  have hfound : (Tree.branch source fields).at? ["service"] = some t :=
    (Tree.at?_singleton _ _).trans hlookup
  obtain ⟨source₁, parts, rfl⟩ := Tree.exists_branch_of_not_cuts hfree ["service"]
    rfl (List.cons_ne_nil _ _) hfound
  obtain ⟨t', hlookup', -⟩ := Option.bind_eq_some_iff.mp hat
  have hfound' : (Tree.branch source' fields').at? ["service"] = some t' :=
    (Tree.at?_singleton _ _).trans hlookup'
  obtain ⟨source₂, parts', rfl⟩ := Tree.exists_branch_of_not_cuts hfree' ["service"]
    rfl (List.cons_ne_nil _ _) hfound'
  have hpart : parts'.lookup setting.key = some u :=
    (Tree.at?_concat hfound' setting.key).symm.trans hat
  have hothers : ∀ name, name ≠ setting.key → parts'.lookup name = parts.lookup name := by
    intro name hname
    exact ((Tree.at?_concat hfound' name).symm.trans
      (h ["service", name] (apart_of_ne ["service"] hname)).symm).trans (Tree.at?_concat hfound name)
  have hordered' := hb.at? hfound'
  refine ⟨fun w hv => ?_, fun hv => ?_⟩
  · refine (Settings.ofTree_eq_ok_iff hfields').mpr ⟨⟨_, hlookup', ?_⟩, ?_, ?_⟩
    · exact read_put hservice hothers hpart hu (ha.at? hfound) hordered' hv
    · rw [hrest "stream" (by decide)]
      exact hsections.stream
    · rw [hrest "database" (by decide)]
      exact hsections.database
  · have hmisfit : ServiceSettings.form.read ["service"] (.branch source₂ parts') =
        .error (setting.misfit v) :=
      read_misfit hservice hothers hpart hu hordered'.fields.ascending hv
    refine Settings.form.read_eq_error_of_part Settings.names_nodup
      hfields' hread hrest (.head _) hlookup' ?_
    exact congrArg (Except.map _) hmisfit

end

/-- What comes of settings when a text setting has what is read from its variable. -/
def loaded (setting : TextSetting) (s : Settings) : Except Abort Value → Except LoadError Settings
  | .error abort => .error (.aborted abort)
  | .ok (.text u) => .ok { s with service := setting.put u s.service }
  | .ok v => .error (.unfit (setting.misfit v))

/-- The settings are the ones asked for exactly if the variable is read as that text. -/
theorem exists_loaded_iff (setting : TextSetting) (s : Settings) (x : Except Abort Value)
    (t : String) : (∃ s', setting.loaded s x = .ok s' ∧ setting.get s'.service = t) ↔
      x = .ok (.text t) := by
  constructor
  · rintro ⟨s', hloaded, rfl⟩
    unfold loaded at hloaded
    split at hloaded
    · cases hloaded
    next u =>
      cases hloaded
      rw [get_put]
    · cases hloaded
  · rintro rfl
    exact ⟨_, rfl, get_put _ _ _⟩

end TextSetting

/-! ## Loading -/

theorem load_eq_settle_merge {files : List File} {vars : List (String × String)}
    {environment : Tree} {trees : List Tree}
    (henvironment : Environment.tree vars = .ok environment)
    (htrees : files.mapM File.tree = .ok trees) :
    load files vars = settle ((overlay trees).merge environment) := by
  rw [load_eq_settle henvironment htrees, overlay, List.foldl_append]
  rfl

theorem load_eq_ok_iff {files : List File} {vars : List (String × String)} {s : Settings} :
    load files vars = .ok s ↔ ∃ environment trees, Environment.tree vars = .ok environment ∧
      files.mapM File.tree = .ok trees ∧ settle ((overlay trees).merge environment) = .ok s := by
  constructor
  · intro h
    obtain ⟨environment, henvironment, hrest⟩ := exists_of_bind_eq_ok h
    obtain ⟨trees, htrees, -⟩ := exists_of_bind_eq_ok hrest
    cases hread : Environment.tree vars with
    | error abort =>
        rw [hread] at henvironment
        cases henvironment
    | ok environment' =>
        exact ⟨environment', trees, rfl, htrees, load_eq_settle_merge hread htrees ▸ h⟩
  · rintro ⟨environment, trees, henvironment, htrees, h⟩
    rw [load_eq_settle_merge henvironment htrees, h]

/-- Settings that load if a variable has some value, or if it is not set and the service
is said by a table, not by a list. -/
inductive LoadsOtherwise (setting : TextSetting) (files : List File)
    (before after : List (String × String)) (name : String) (s : Settings) : Prop
  | given (t : String) : load files (before ++ (name, t) :: after) = .ok s →
      LoadsOtherwise setting files before after name s
  | unset : load files (before ++ after) = .ok s →
      (∀ environment trees, Environment.tree (before ++ after) = .ok environment →
        files.mapM File.tree = .ok trees →
        ¬ ((overlay trees).merge environment).Cuts setting.path) →
      LoadsOtherwise setting files before after name s

/-- The layers of settings that load otherwise: `start` is what the variables say up to
the place of the one in question, `otherwise` what all of them say. -/
structure Basis (setting : TextSetting) (files : List File) (before after : List (String × String))
    (s : Settings) (base start otherwise : Tree) (trees : List Tree) : Prop where
  base_eq : Environment.tree before = .ok base
  start_sound : Environment.Sound start
  sound : Environment.Sound otherwise
  beside : ∀ v : Value, v.Sayable →
    start.Beside setting.path (base.merge (Environment.nested v setting.path))
  otherwise_eq : Environment.addAll after start = .ok otherwise
  trees_eq : files.mapM File.tree = .ok trees
  free : ¬ ((overlay trees).merge otherwise).Cuts setting.path
  settled : settle ((overlay trees).merge otherwise) = .ok s

section
variable {setting : TextSetting} {files : List File} {before after : List (String × String)}
  {name : String} {s : Settings} {base start otherwise : Tree} {trees : List Tree}

theorem ordered_overlay (htrees : files.mapM File.tree = .ok trees) : (overlay trees).Ordered :=
  overlay_ordered (spoken_of_mapM_tree htrees)

theorem addVariable_of_path? {path : List String} (hname : Environment.path? name = some path)
    (t : Tree) (value : String) : Environment.addVariable t name value =
      (Shorthand.read value).map fun v => t.merge (Environment.nested v path) := by
  rw [Environment.addVariable, hname]

section
variable (hname : Environment.path? name = some setting.path)
  (hafter : ∀ var ∈ after, Environment.Silent setting.path var)
include hname hafter

theorem LoadsOtherwise.exists_basis (h : LoadsOtherwise setting files before after name s) :
    ∃ base start otherwise trees,
      Basis setting files before after s base start otherwise trees := by
  cases h with
  | given t h =>
      obtain ⟨otherwise, trees, henvironment, htrees, hsettled⟩ := load_eq_ok_iff.mp h
      have hsound' : Environment.Sound otherwise := Environment.sound_tree henvironment
      rw [Environment.tree_append] at henvironment
      obtain ⟨base, hbase, hrest⟩ := exists_of_bind_eq_ok henvironment
      rw [Environment.addAll_cons] at hrest
      obtain ⟨start, hstart, hrest⟩ := exists_of_bind_eq_ok hrest
      have hsound : Environment.Sound base := Environment.sound_tree hbase
      have hsound₁ : Environment.Sound start := hsound.addVariable hstart
      rw [addVariable_of_path? hname] at hstart
      obtain ⟨v₀, hread, rfl⟩ := exists_of_map_eq_ok hstart
      have hv₀ : v₀.Sayable := Shorthand.read_sayable hread
      -- Nothing that comes later takes back what is said at the path.
      obtain ⟨_, _, -, hat, -⟩ :=
        Environment.exists_addAll hafter hsound₁ hsound₁ (fun _ _ => rfl) hrest
      rw [Environment.at?_merge_nested hsound hv₀] at hat
      have hfree : ¬ ((overlay trees).merge otherwise).Cuts setting.path :=
        Tree.not_cuts_of_at? (Tree.at?_merge_of_some (ordered_overlay htrees)
          hsound'.spoken.ordered hat)
      refine ⟨base, _, otherwise, trees, hbase, hsound₁, hsound', fun v hv q hq => ?_, hrest,
        htrees, hfree, hsettled⟩
      exact (Environment.beside_merge_nested hsound hv₀ q hq).symm.trans
        (Environment.beside_merge_nested hsound hv q hq)
  | unset h hfree =>
      obtain ⟨otherwise, trees, henvironment, htrees, hsettled⟩ := load_eq_ok_iff.mp h
      have hfree' := hfree _ _ henvironment htrees
      have hsound' : Environment.Sound otherwise := Environment.sound_tree henvironment
      rw [Environment.tree_append] at henvironment
      obtain ⟨base, hbase, hrest⟩ := exists_of_bind_eq_ok henvironment
      have hsound : Environment.Sound base := Environment.sound_tree hbase
      exact ⟨base, base, otherwise, trees, hbase, hsound, hsound',
        fun v hv => Environment.beside_merge_nested hsound hv, hrest, htrees, hfree', hsettled⟩

/-- With the variable set, the environment says its value in its place, and is beside
that place what it is otherwise. -/
theorem Basis.exists_environment
    (h : Basis setting files before after s base start otherwise trees) {t : String} {v : Value}
    (hread : Shorthand.read t = .ok v) : ∃ environment below,
      Environment.tree (before ++ (name, t) :: after) = .ok environment ∧
      otherwise.Beside setting.path environment ∧
      environment.at? setting.path = some ((Tree.ofValue .environment v).laidOn below) := by
  have hsound : Environment.Sound base := Environment.sound_tree h.base_eq
  have hv : v.Sayable := Shorthand.read_sayable hread
  have hadd : Environment.addVariable base name t =
      .ok (base.merge (Environment.nested v setting.path)) := by
    rw [addVariable_of_path? hname, hread]
    rfl
  obtain ⟨environment, hrest, hbeside, -, hat⟩ := Environment.exists_addAll hafter h.start_sound
    (hsound.addVariable hadd) (h.beside v hv) h.otherwise_eq
  refine ⟨environment, _, ?_, hbeside, hat.trans (Environment.at?_merge_nested hsound hv)⟩
  rw [Environment.tree_append, h.base_eq]
  change Environment.addAll _ base = _
  rw [Environment.addAll_cons, hadd]
  exact hrest

theorem Basis.load_eq (h : Basis setting files before after s base start otherwise trees)
    (t : String) :
    load files (before ++ (name, t) :: after) = setting.loaded s (Shorthand.read t) := by
  cases hread : Shorthand.read t with
  | error abort =>
      have habort : Environment.tree (before ++ (name, t) :: after) = .error abort := by
        rw [Environment.tree_append, h.base_eq]
        change Environment.addAll _ base = _
        rw [Environment.addAll_cons, addVariable_of_path? hname, hread]
        rfl
      rw [load, habort]
      rfl
  | ok v =>
      obtain ⟨environment, below, htree, hbeside, hat⟩ :=
        h.exists_environment hname hafter hread
      have hbase := ordered_overlay h.trees_eq
      have hleft := h.sound.spoken.ordered
      have hright := (Environment.sound_tree htree).spoken.ordered
      obtain ⟨hread, hvalid⟩ := settle_eq_ok_iff.mp h.settled
      have hfree : ¬ otherwise.Cuts setting.path := fun hcuts => h.free (hcuts.merge hbase hleft)
      have hwhole := hbeside.merge_above hleft hright hbase hfree (Tree.not_cuts_of_at? hat)
      obtain ⟨htext, hother⟩ := TextSetting.ofTree_of_beside (hbase.merge hleft)
        (hbase.merge hright) hwhole h.free hread (Tree.at?_merge_of_some hbase hright hat)
        (((carries_ofValue v).laidOn _).laidOn _)
      rw [load_eq_settle_merge htree h.trees_eq]
      cases v with
      | text u => exact settle_eq_ok_iff.mpr ⟨htext u rfl, hvalid⟩
      | _ => rw [settle, hother rfl]; rfl

end
end

/-- **A text setting has what its variable is read as, if that is a text.** -/
theorem load_of_text_setting :
    (∀ (w : Surroundings) (service : String), ∃ files, ∀ vars,
      Surroundings.loadForService { w with vars := vars } service = load files vars) ∧
    (∀ (w : Surroundings) (name : String), ∃ files, ∀ vars,
      Surroundings.loadFrom { w with vars := vars } name = load files vars) ∧
    (∀ setting : TextSetting, Environment.path? setting.variableName = some setting.path) ∧
    (∀ (setting : TextSetting) (files : List File) (before after : List (String × String))
      (name : String) (s : Settings), Environment.path? name = some setting.path →
      (∀ var ∈ after, Environment.Silent setting.path var) →
      LoadsOtherwise setting files before after name s → ∀ t : String,
      load files (before ++ (name, t) :: after) = setting.loaded s (Shorthand.read t) ∧
      ((∃ s', load files (before ++ (name, t) :: after) = .ok s' ∧
        setting.get s'.service = t) ↔ Shorthand.read t = .ok (.text t))) ∧
    (∀ t : String, Shorthand.Plain t → Shorthand.read t = .ok (.text t)) ∧
    (∀ cs : List Char, (∀ c ∈ cs, Text.isPlain c = true ∧ c ≠ '"' ∧ c ≠ '\\') →
      Shorthand.read (String.ofList ('"' :: (cs ++ ['"']))) = .ok (.text (String.ofList cs))) ∧
    ∀ u : String, Shorthand.read (Shorthand.spelled u) = .ok (.text u) := by
  refine ⟨fun w service => ⟨(w.machineFile? service).toList ++ (w.serviceFile? service).toList ++
      w.workingFile?.toList, fun _ => rfl⟩,
    fun w name => ⟨(w.nearestFile? name).toList, fun _ => rfl⟩,
    TextSetting.path?_variableName, ?_,
    fun _ => Shorthand.read_plain, fun _ => Shorthand.read_quoted, Shorthand.read_spelled⟩
  intro setting files before after name s hname hafter h t
  obtain ⟨base, start, otherwise, trees, hbasis⟩ := h.exists_basis hname hafter
  have hload := hbasis.load_eq hname hafter t
  rw [hload]
  exact ⟨rfl, setting.exists_loaded_iff s _ t⟩

/-- A service of another name, where other settings are said before and after. -/
def otherVars : List (String × String) × List (String × String) :=
  ([("ROWFLUX_DATABASE__URL", "postgres://localhost")], [("ROWFLUX_STREAM__QUEUE_SIZE", "16")])

def otherFile : File := ⟨"config.toml", "[service]\nname = \"orders\"\n"⟩

def otherSettings : Settings :=
  ⟨⟨"orders", "info", "dev"⟩, ⟨16, 10000, none, 5⟩, some (.ofUrl "postgres://localhost")⟩

theorem otherFile_loads :
    LoadsOtherwise .name [otherFile] otherVars.1 otherVars.2 "ROWFLUX_SERVICE__NAME"
      otherSettings := by
  refine .unset ?_ fun environment trees henvironment htrees => ?_
  · exact eq_ok_of_toOption (by decide +kernel)
  · have hfound : ((Environment.tree (otherVars.1 ++ otherVars.2)).toOption.bind fun environment =>
        ([otherFile].mapM File.tree).toOption.bind fun trees =>
          ((overlay trees).merge environment).at? TextSetting.name.path).isSome = true := by
      decide +kernel
    rw [henvironment, htrees] at hfound
    obtain ⟨u, hat⟩ := Option.isSome_iff_exists.mp hfound
    exact Tree.not_cuts_of_at? hat

theorem otherVars_silent : ∀ var ∈ otherVars.2, Environment.Silent TextSetting.name.path var := by
  have hpath : Environment.path? "ROWFLUX_STREAM__QUEUE_SIZE" = some ["stream", "queue_size"] := by
    decide +kernel
  refine List.forall_mem_singleton.mpr (Environment.silent_of_apart hpath ⟨?_, ?_⟩ "16")
  · decide
  · decide

theorem load_of_text_setting_of_billing :
    Environment.path? "ROWFLUX_SERVICE__NAME" = some TextSetting.name.path ∧
      (∀ var ∈ otherVars.2, Environment.Silent TextSetting.name.path var) ∧
      LoadsOtherwise .name [otherFile] otherVars.1 otherVars.2 "ROWFLUX_SERVICE__NAME"
        otherSettings ∧
      Shorthand.Plain "billing" ∧
      load [otherFile] (otherVars.1 ++ ("ROWFLUX_SERVICE__NAME", "billing") :: otherVars.2) =
        .ok { otherSettings with service := ⟨"billing", "info", "dev"⟩ } ∧
      Shorthand.read "\"123\"" = .ok (.text "123") := by
  have hname : Environment.path? "ROWFLUX_SERVICE__NAME" = some TextSetting.name.path := by
    decide +kernel
  have hplain : Shorthand.Plain "billing" := by
    have hhead : "billing".toList.head? = some 'b' := by decide +kernel
    refine ⟨by decide +kernel, fun c hc => ?_, by decide, by decide +kernel,
      fun hpoint => absurd hpoint (by decide +kernel)⟩
    rw [hhead] at hc
    cases hc
    decide
  obtain ⟨-, -, -, hload, hself, hquoted, -⟩ := load_of_text_setting
  obtain ⟨hloaded, -⟩ := hload .name [otherFile] otherVars.1 otherVars.2 _ otherSettings hname
    otherVars_silent otherFile_loads "billing"
  have hdigits : ∀ c ∈ ['1', '2', '3'], Text.isPlain c = true ∧ c ≠ '"' ∧ c ≠ '\\' :=
    List.forall_mem_cons.mpr ⟨by decide, List.forall_mem_cons.mpr ⟨by decide,
      List.forall_mem_singleton.mpr (by decide)⟩⟩
  refine ⟨hname, otherVars_silent, otherFile_loads, hplain, ?_, hquoted _ hdigits⟩
  rw [hloaded, hself _ hplain]
  rfl

/-- A file that says the service by a list. -/
def listedFile : File := ⟨"config.toml", "service = [\"orders\", \"info\", \"dev\"]\n"⟩

/-- Settings that load, but not with a number for a text, or with one setting of the
service where a list says all of them. -/
theorem texts_that_do_not_load :
    (load [] []).toOption = some .default ∧
    (load [] [(TextSetting.name.variableName, "123")]).toOption = none ∧
    (load [listedFile] []).toOption = some { Settings.default with service := .named "orders" } ∧
    (load [listedFile] [(TextSetting.logLevel.variableName, "debug")]).toOption = none := by
  refine ⟨?_, ?_, ?_, ?_⟩ <;> decide +kernel

end RowBridge.Config
