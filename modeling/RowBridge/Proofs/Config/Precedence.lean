/-
# `RowBridge.Proofs.Config.Precedence` — from which source a setting comes

Settings for a service are said by layers, each more important than the one before:
the built-in one, the files that are found for the service (`Surroundings.FilesFor`),
and the environment.  The files are, the less important first,

    /etc/rowflux/<service>/config.toml
    <base>/rowflux/<service>/config.toml     in the first base directory that has one
    ./config.toml                            in the working directory

**Proved here** (`load_by_precedence`), for layers that agree about which paths are
tables:

    what is said at a path         is what the most important layer says that says anything
    the settings                   have in each place what is said there, or what stands
                                   there if nothing is
    they do not load               exactly if something is missing, or does not fit, or
                                   the stream section has no meaning
    a layer left out               makes no difference at the paths where it says nothing

And settings that are loaded from one file, by its path, are the same that a service
would load if a file of that text were the only one that it finds.
-/
import RowBridge.Proofs.Config.Extraction
import RowBridge.Proofs.Config.Files
import RowBridge.Proofs.Config.Renaming

namespace RowBridge.Config

/-! ## Precedence -/

/-- What a layer says at a path where another says nothing does not depend on that
other one. -/
theorem prevailing_of_silent {before after : List Tree} {layer : Tree} {path : List String}
    (h : layer.said? path = none) :
    prevailing (before ++ layer :: after) path = prevailing (before ++ after) path := by
  simp [prevailing, List.findSome?_append, h]

section
variable {before after : List Tree} {layer : Tree}
  (hspoken : ∀ t ∈ before ++ layer :: after, t.Spoken)
  (hagree : Agree (builtIn :: (before ++ layer :: after)))
include hspoken hagree

/-- A layer can be left out without a difference at the paths where it says nothing. -/
theorem said?_overlay_without {path : List String} (h : layer.said? path = none) :
    (overlay (before ++ layer :: after)).said? path = (overlay (before ++ after)).said? path := by
  have hsub : before ++ after ⊆ before ++ layer :: after :=
    ((List.sublist_cons_self layer after).append_left before).subset
  have hspoken' : ∀ t ∈ before ++ after, t.Spoken := fun t ht => hspoken t (hsub ht)
  have hagree' : Agree (builtIn :: (before ++ after)) :=
    hagree.subset (List.cons_subset_cons builtIn hsub)
  rw [said?_overlay hspoken hagree, said?_overlay hspoken' hagree', prevailing_cons,
    prevailing_cons, prevailing_of_silent h]

end

/-- **Settings come from the most important layer that says them.** -/
theorem load_by_precedence :
    (∀ (w : Surroundings) (service : String) (files : List File) (trees : List Tree)
        (environment : Tree),
      w.Rooted → w.FilesFor service files → files.mapM File.tree = .ok trees →
      Environment.tree w.vars = .ok environment →
      Agree (builtIn :: (trees ++ [environment])) →
      let layers := builtIn :: (trees ++ [environment])
      (∀ path, (overlay (trees ++ [environment])).said? path = prevailing layers path) ∧
      (∀ s, w.loadForService service = .ok s ↔
        Extracted layers s ∧ s.stream.validate = .ok ()) ∧
      ((∃ fault, w.loadForService service = .error (.unfit fault)) ↔
        Missing layers ∨ Misfit layers) ∧
      (∀ e, w.loadForService service = .error (.refused e) ↔
        ∃ s, Extracted layers s ∧ s.stream.validate = .error e) ∧
      (∀ e, w.loadForService service = .error e →
        (∃ fault, e = .unfit fault) ∨ ∃ error, e = .refused error) ∧
      ∀ before layer after path, trees ++ [environment] = before ++ layer :: after →
        layer.said? path = none →
        (overlay (trees ++ [environment])).said? path = (overlay (before ++ after)).said? path) ∧
    ∀ (w w' : Surroundings) (service name text : String) (file : File),
      name.startsWith "/" = true → w.find name = some (.file text) → w'.vars = w.vars →
      w'.Rooted → w'.FilesFor service [file] → file.text = text →
      w.loadFrom name =
        (w'.loadForService service).mapError (.inFile (shownFrom w.working name)) := by
  constructor
  · intro w service files trees environment hrooted hfor hfiles henvironment hagree layers
    have hspoken : ∀ t ∈ trees ++ [environment], t.Spoken := by
      intro t ht
      rcases List.mem_append.mp ht with ht | ht
      · exact spoken_of_mapM_tree hfiles t ht
      · obtain rfl := List.mem_singleton.mp ht
        exact (Environment.sound_tree henvironment).spoken
    have hextracted := @ofTree_overlay_eq_ok_iff _ hspoken hagree
    rw [hfor.loadForService hrooted, load_eq_settle henvironment hfiles]
    refine ⟨said?_overlay hspoken hagree, ?_, ?_, ?_, ?_, ?_⟩
    · intro s
      rw [settle_eq_ok_iff, hextracted]
    · rw [settle_eq_unfit_iff, exists_ofTree_overlay_iff hspoken hagree, Classical.not_not]
    · intro e
      simp only [settle_eq_refused_iff, hextracted]
      exact Iff.rfl
    · exact fun e => settle_error_cases
    · intro before layer after path heq hsilent
      rw [heq] at hspoken
      have hagree' : Agree (builtIn :: (before ++ layer :: after)) := heq ▸ hagree
      rw [heq]
      exact said?_overlay_without hspoken hagree' hsilent
  · intro w w' service name text file hroot hfind hvars hrooted honly htext
    have hfile : w.nearestFile? name = some ⟨shownFrom w.working name, text⟩ := by
      rw [Surroundings.nearestFile?_of_root hroot]
      exact Surroundings.file?_eq_iff.mpr (.found hfind)
    subst htext
    rw [Surroundings.loadFrom, hfile, honly.loadForService hrooted, hvars]
    exact load_singleton _ _ _ _

/-! A service with a file in its home directory and one in its working directory, and an
environment that says its name otherwise. -/

def ordersPath : String := "/home/ada/.config/rowflux/orders/config.toml"

def ordersText : String :=
  "[service]\nname = \"orders\"\nlog_level = \"debug\"\n[stream]\nbuffer_timeout_ms = 250\n"

def besideText : String := "[service]\nlog_level = \"warn\"\n[stream]\nqueue_size = 7\n"

/-- Where only the file in the home directory is. -/
def ordersAtHome : Surroundings where
  working := "/srv/orders"
  find path := if path = ordersPath then some (.file ordersText) else none
  bases := ["/home/ada/.config"]
  vars := [("ROWFLUX_SERVICE__NAME", "billing"), ("ROWFLUX_DATABASE__URL", "postgres://localhost")]

def orders : Surroundings :=
  { ordersAtHome with
    find := fun path =>
      if path = "/srv/orders/config.toml" then some (.file besideText) else ordersAtHome.find path }

def ordersFile : File := ⟨shownFrom "/srv/orders" ordersPath, ordersText⟩

def besideFile : File := ⟨shownFrom "/srv/orders" "/srv/orders/config.toml", besideText⟩

/-- What a file says that can be read. -/
def treeIn (file : File) : Tree :=
  .branch (.file file.shown) (Tree.ofFields (.file file.shown) ((Toml.read? file.text).getD []))

def ordersEnvironment : Tree :=
  (Environment.tree orders.vars).toOption.getD (.branch .environment [])

/-- Its settings, but for the two that the file in the working directory says. -/
def ordersSettings (logLevel : String) (queueSize : Nat) : Settings :=
  ⟨⟨"billing", logLevel, "dev"⟩, ⟨queueSize, 250, none, 5⟩,
    some (.ofUrl "postgres://localhost")⟩

theorem tree_eq_treeIn {file : File} (h : (Toml.read? file.text).isSome = true) :
    file.tree = .ok (treeIn file) := by
  obtain ⟨fields, hfields⟩ := Option.isSome_iff_exists.mp h
  simp [File.tree, treeIn, hfields]

theorem joinPath_orders :
    joinPath (joinPath "/home/ada/.config" "rowflux") (joinPath "orders" "config.toml") =
        ordersPath ∧
      joinPath "/etc/rowflux" (joinPath "orders" "config.toml") =
        "/etc/rowflux/orders/config.toml" ∧
      joinPath "/srv/orders" "config.toml" = "/srv/orders/config.toml" := by
  decide +kernel

theorem filesFor_orders {w : Surroundings} {ofWorking : Option File}
    (hworking : w.working = "/srv/orders") (hbases : w.bases = ["/home/ada/.config"])
    (hmachine : w.find "/etc/rowflux/orders/config.toml" = none)
    (hhome : w.find ordersPath = some (.file ordersText)) (hbeside : w.HasWorkingFile ofWorking) :
    w.FilesFor "orders" (ordersFile :: ofWorking.toList) := by
  obtain ⟨hhomePath, hmachinePath, -⟩ := joinPath_orders
  refine ⟨none, some ordersFile, ofWorking, .missing fun text => ?_, ?_, hbeside, rfl⟩
  · simp [hmachinePath, hmachine]
  · have hpaths : (w.bases.map fun base =>
        joinPath (joinPath base "rowflux") (joinPath "orders" "config.toml")) =
          [] ++ ordersPath :: [] := by
      simp [hbases, hhomePath]
    rw [ordersFile, ← hworking]
    exact .first hpaths (fun _ h => nomatch h) hhome (.found hhome)

theorem orders_filesFor : orders.FilesFor "orders" [ordersFile, besideFile] := by
  have hpath := joinPath_orders.2.2
  have hfind : orders.find (joinPath orders.working "config.toml") = some (.file besideText) := by
    simp [orders, ordersAtHome, hpath]
  have hbeside : orders.HasWorkingFile (some besideFile) := by
    rw [besideFile, ← hpath]
    exact .present hfind
  exact filesFor_orders rfl rfl (by decide +kernel) (by decide +kernel) hbeside

theorem ordersAtHome_filesFor : ordersAtHome.FilesFor "orders" [ordersFile] := by
  have hfind : ordersAtHome.find (joinPath ordersAtHome.working "config.toml") = none := by
    decide +kernel
  exact filesFor_orders rfl rfl (by decide +kernel) (by decide +kernel) (.absent hfind)

theorem orders_layers : [ordersFile, besideFile].mapM File.tree =
      .ok [treeIn ordersFile, treeIn besideFile] ∧
    Environment.tree orders.vars = .ok ordersEnvironment ∧
    Agree (builtIn :: ([treeIn ordersFile, treeIn besideFile] ++ [ordersEnvironment])) := by
  have hparsed : (Environment.tree orders.vars).toOption.isSome = true := by decide +kernel
  refine ⟨?_, ?_, agree_of_clashes (by decide +kernel)⟩
  · rw [List.mapM_cons, tree_eq_treeIn (by decide +kernel), List.mapM_cons,
      tree_eq_treeIn (by decide +kernel)]
    rfl
  · obtain ⟨t, ht⟩ := Option.isSome_iff_exists.mp hparsed
    rw [ordersEnvironment, ht]
    exact eq_ok_of_toOption ht

theorem orders_load : orders.loadForService "orders" = .ok (ordersSettings "warn" 7) ∧
    ordersAtHome.loadForService "orders" = .ok (ordersSettings "debug" 100) :=
  ⟨eq_ok_of_toOption (by decide +kernel), eq_ok_of_toOption (by decide +kernel)⟩

theorem load_by_precedence_of_orders :
    orders.Rooted ∧ orders.FilesFor "orders" [ordersFile, besideFile] ∧
      [ordersFile, besideFile].mapM File.tree = .ok [treeIn ordersFile, treeIn besideFile] ∧
      Environment.tree orders.vars = .ok ordersEnvironment ∧
      Agree (builtIn :: ([treeIn ordersFile, treeIn besideFile] ++ [ordersEnvironment])) ∧
      Extracted (builtIn :: ([treeIn ordersFile, treeIn besideFile] ++ [ordersEnvironment]))
        (ordersSettings "warn" 7) ∧
      orders.loadForService "orders" = .ok (ordersSettings "warn" 7) ∧
      ordersPath.startsWith "/" = true ∧ orders.find ordersPath = some (.file ordersText) ∧
      ordersAtHome.vars = orders.vars ∧ ordersAtHome.Rooted ∧
      ordersAtHome.FilesFor "orders" [ordersFile] ∧
      orders.loadFrom ordersPath = .ok (ordersSettings "debug" 100) := by
  obtain ⟨hfiles, henvironment, hagree⟩ := orders_layers
  obtain ⟨hload, hloadAtHome⟩ := orders_load
  have hrooted : orders.Rooted := ⟨["srv", "orders"], by decide +kernel, by decide +kernel⟩
  have hfind : orders.find ordersPath = some (.file ordersText) := by decide +kernel
  have hroot : ordersPath.startsWith "/" = true := by decide +kernel
  obtain ⟨-, hloads, -⟩ := load_by_precedence.1 orders "orders" _ _ _ hrooted orders_filesFor
    hfiles henvironment hagree
  have hsame := load_by_precedence.2 orders ordersAtHome "orders" ordersPath ordersText ordersFile
    hroot hfind rfl hrooted ordersAtHome_filesFor rfl
  refine ⟨hrooted, orders_filesFor, hfiles, henvironment, hagree, ((hloads _).mp hload).1, hload,
    hroot, hfind, rfl, hrooted, ordersAtHome_filesFor, ?_⟩
  rw [hsame, hloadAtHome]
  rfl

end RowBridge.Config
