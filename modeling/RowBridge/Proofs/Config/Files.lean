/-
# `RowBridge.Proofs.Config.Files` — which files settings are read from

Settings are looked for in four ways, and each finds what a relation says that only
speaks of what stands at which path:

    `HasMachineFile`   the file at `/etc/rowflux/<service>/config.toml`
    `HasServiceFile`   the file at `<base>/rowflux/<service>/config.toml`, for the first
                       base directory where anything stands there
    `HasWorkingFile`   the file `config.toml` of the working directory
    `HasNearestFile`   the file of a name in the working directory, or else in the
                       nearest directory around it that has one

A directory of the right name is never read, but it is not as if nothing were there:
in a base directory it ends the search, and in the working directory it has the
directories around searched.
-/
import RowBridge.Config.Layers

namespace RowBridge.Config

/-! ## Names on a path -/

/-- A name that a path can have on its way. -/
structure IsName (name : String) : Prop where
  ne_empty : name ≠ ""
  ne_dot : name ≠ "."
  no_slash : '/' ∉ name.toList

instance (name : String) : Decidable (IsName name) :=
  decidable_of_iff (name ≠ "" ∧ name ≠ "." ∧ '/' ∉ name.toList)
    ⟨fun ⟨hempty, hdot, hslash⟩ => ⟨hempty, hdot, hslash⟩,
      fun h => ⟨h.ne_empty, h.ne_dot, h.no_slash⟩⟩

theorem pieces_fromRoot {names : List String} (hne : names ≠ [])
    (h : ∀ name ∈ names, IsName name) : pieces (fromRoot names) = "" :: names := by
  have hslash : ∀ l ∈ names.map String.toList, '/' ∉ l :=
    List.forall_mem_map.mpr fun name hname => (h name hname).no_slash
  have hlist : (fromRoot names).toList = '/' :: ['/'].intercalate (names.map String.toList) := by
    simp [fromRoot, String.toList_intercalate]
  rw [pieces, hlist, List.splitOn_cons_eq_if_modifyHead, if_pos (by decide),
    List.splitOn_intercalate '/' hslash (by simpa using hne)]
  simp

/-- A path from the root has the names that it is made of. -/
theorem segments_fromRoot {names : List String} (h : ∀ name ∈ names, IsName name) :
    segments (fromRoot names) = names := by
  cases names with
  | nil => decide +kernel
  | cons name rest =>
      rw [segments, pieces_fromRoot (List.cons_ne_nil _ _) h, List.filter_cons, if_neg (by decide),
        List.filter_eq_self]
      intro n hn
      simpa using ⟨(h n hn).ne_empty, (h n hn).ne_dot⟩

/-! ## On the way down from a number -/

section
variable {α : Type} (f : Nat → Option α) {n : Nat}

theorem findSome?_down_eq_none_iff :
    (List.range (n + 1)).findSome? (fun k => f (n - k)) = none ↔ ∀ k ≤ n, f k = none := by
  simp only [List.findSome?_eq_none_iff, List.mem_range, Nat.lt_succ_iff]
  constructor
  · intro h k hk
    rw [← Nat.sub_sub_self hk]
    exact h (n - k) (Nat.sub_le n k)
  · exact fun h k _ => h (n - k) (Nat.sub_le n k)

theorem findSome?_down_succ : (List.range (n + 1 + 1)).findSome? (fun k => f (n + 1 - k)) =
    (f (n + 1)).or ((List.range (n + 1)).findSome? fun k => f (n - k)) := by
  rw [List.range_succ_eq_map, List.findSome?_cons, List.findSome?_map]
  simp only [Function.comp_def, Nat.succ_eq_add_one, Nat.add_sub_add_right, Nat.sub_zero]
  cases f (n + 1) <;> rfl

/-- What is found first is found at the largest number that gives anything. -/
theorem findSome?_down_eq_some_iff {a : α} :
    (List.range (n + 1)).findSome? (fun k => f (n - k)) = some a ↔
      ∃ k ≤ n, f k = some a ∧ ∀ i ≤ n, k < i → f i = none := by
  induction n with
  | zero => simp
  | succ n ih =>
      rw [findSome?_down_succ]
      -- only what the largest number gives can stand before the rest
      cases hf : f (n + 1) with
      | some b =>
          rw [Option.some_or]
          constructor
          · intro h
            exact ⟨n + 1, Nat.le_refl _, hf.trans h, fun i hle hlt => by omega⟩
          · rintro ⟨k, hk, hfk, hnone⟩
            rcases Nat.le_succ_iff.mp hk with hle | rfl
            · have hlt : k < n + 1 := Nat.lt_succ_of_le hle
              exact absurd (hf.symm.trans (hnone (n + 1) (Nat.le_refl _) hlt)) (by simp)
            · exact hf.symm.trans hfk
      | none =>
          rw [Option.none_or, ih]
          constructor
          · rintro ⟨k, hk, hfk, hnone⟩
            refine ⟨k, Nat.le_succ_of_le hk, hfk, fun i hi hlt => ?_⟩
            rcases Nat.le_succ_iff.mp hi with hle | rfl
            · exact hnone i hle hlt
            · exact hf
          · rintro ⟨k, hk, hfk, hnone⟩
            have hne : k ≠ n + 1 := fun heq => by simp [heq, hf] at hfk
            exact ⟨k, by omega, hfk, fun i hi => hnone i (Nat.le_succ_of_le hi)⟩

end

namespace Surroundings
variable {w : Surroundings} {path name service : String} {paths : List String}
  {file : Option File}

/-- The working directory is told as a process is told it, by the names on the way to it
from the root. -/
def Rooted (w : Surroundings) : Prop :=
  ∃ names, (∀ name ∈ names, IsName name) ∧ w.working = fromRoot names

theorem Rooted.fromRoot_segments (h : w.Rooted) : fromRoot (segments w.working) = w.working := by
  obtain ⟨names, hnames, hworking⟩ := h
  rw [hworking, segments_fromRoot hnames]

/-! ## At a path -/

/-- The file at a path, or none where none is. -/
inductive HasFile (w : Surroundings) (path : String) : Option File → Prop
  | found {text : String} : w.find path = some (.file text) →
      HasFile w path (some ⟨shownFrom w.working path, text⟩)
  | missing : (∀ text, w.find path ≠ some (.file text)) → HasFile w path none

theorem file?_eq_iff : w.file? path = file ↔ w.HasFile path file := by
  constructor
  · rintro rfl
    unfold file?
    split
    next text hfind => exact .found hfind
    next hnone => exact .missing hnone
  · intro h
    cases h with
    | found hfind => rw [file?, hfind]
    | missing hnone =>
        unfold file?
        split
        next text hfind => exact absurd hfind (hnone text)
        next => rfl

/-! ## At the first of some paths -/

/-- The file at the first path where anything stands. -/
inductive HasFirstFile (w : Surroundings) (paths : List String) : Option File → Prop
  | nowhere : (∀ path ∈ paths, w.find path = none) → HasFirstFile w paths none
  | first {before after : List String} {path : String} {entry : Entry} {file : Option File} :
      paths = before ++ path :: after → (∀ p ∈ before, w.find p = none) →
      w.find path = some entry → w.HasFile path file → HasFirstFile w paths file

theorem find?_stands_eq_none_iff :
    paths.find? w.stands = none ↔ ∀ path ∈ paths, w.find path = none := by
  simp [stands]

theorem find?_stands_eq_some_iff :
    paths.find? w.stands = some path ↔ (∃ entry, w.find path = some entry) ∧
      ∃ before after, paths = before ++ path :: after ∧ ∀ p ∈ before, w.find p = none := by
  simp [List.find?_eq_some_iff_append, stands, Option.isSome_iff_exists]

theorem firstFile?_eq_iff :
    (paths.find? w.stands).bind w.file? = file ↔ w.HasFirstFile paths file := by
  constructor
  · rintro rfl
    cases hfound : paths.find? w.stands with
    | none => exact .nowhere (find?_stands_eq_none_iff.mp hfound)
    | some path =>
        obtain ⟨⟨entry, hentry⟩, before, after, hpaths, hbefore⟩ :=
          find?_stands_eq_some_iff.mp hfound
        exact .first hpaths hbefore hentry (file?_eq_iff.mp rfl)
  · intro h
    cases h with
    | nowhere hnone =>
        rw [find?_stands_eq_none_iff.mpr hnone]
        rfl
    | first hpaths hbefore hentry hfile =>
        rw [find?_stands_eq_some_iff.mpr ⟨⟨_, hentry⟩, _, _, hpaths, hbefore⟩]
        exact file?_eq_iff.mpr hfile

/-! ## For a service -/

def HasMachineFile (w : Surroundings) (service : String) : Option File → Prop :=
  w.HasFile (joinPath "/etc/rowflux" (joinPath service "config.toml"))

theorem machineFile?_eq_iff : w.machineFile? service = file ↔ w.HasMachineFile service file := by
  have hbase : joinPath machineBase "rowflux" = "/etc/rowflux" := by decide +kernel
  rw [machineFile?, settingsPath, hbase]
  exact file?_eq_iff

def HasServiceFile (w : Surroundings) (service : String) : Option File → Prop :=
  w.HasFirstFile (w.bases.map fun base =>
    joinPath (joinPath base "rowflux") (joinPath service "config.toml"))

theorem serviceFile?_eq_iff : w.serviceFile? service = file ↔ w.HasServiceFile service file :=
  firstFile?_eq_iff

/-! ## Near the working directory -/

/-- The path of a name in the directory that is so many names below the root on the way
to the working directory. -/
def pathOnWay (w : Surroundings) (name : String) (k : Nat) : String :=
  joinPath (fromRoot ((segments w.working).take k)) name

/-- The file of a name in the working directory, or else in the nearest directory around
it that has one. -/
inductive HasNearestFile (w : Surroundings) (name : String) : Option File → Prop
  | nowhere : (∀ k ≤ (segments w.working).length, w.HasFile (w.pathOnWay name k) none) →
      HasNearestFile w name none
  | nearest {k : Nat} {file : File} : k ≤ (segments w.working).length →
      w.HasFile (w.pathOnWay name k) (some file) →
      (∀ i ≤ (segments w.working).length, k < i → w.HasFile (w.pathOnWay name i) none) →
      HasNearestFile w name (some file)

theorem nearestFile?_eq (w : Surroundings) (name : String) :
    w.nearestFile? name = (List.range ((segments w.working).length + 1)).findSome?
      fun k => w.file? (w.pathOnWay name ((segments w.working).length - k)) := by
  rw [nearestFile?, withAncestors, List.findSome?_map]
  rfl

theorem nearestFile?_eq_iff : w.nearestFile? name = file ↔ w.HasNearestFile name file := by
  rw [nearestFile?_eq]
  cases file with
  | none =>
      refine (findSome?_down_eq_none_iff fun k => w.file? (w.pathOnWay name k)).trans ?_
      simp only [file?_eq_iff]
      exact ⟨.nowhere, fun h => by cases h with | nowhere hnone => exact hnone⟩
  | some file =>
      refine (findSome?_down_eq_some_iff fun k => w.file? (w.pathOnWay name k)).trans ?_
      simp only [file?_eq_iff]
      constructor
      · rintro ⟨k, hk, hfile, hnone⟩
        exact .nearest hk hfile hnone
      · intro h
        cases h with
        | nearest hk hfile hnone => exact ⟨_, hk, hfile, hnone⟩

/-- The file of the working directory.  Where a directory has its name, the nearest file
of that name is read instead. -/
inductive HasWorkingFile (w : Surroundings) : Option File → Prop
  | absent : w.find (joinPath w.working "config.toml") = none → HasWorkingFile w none
  | present {text : String} : w.find (joinPath w.working "config.toml") = some (.file text) →
      HasWorkingFile w (some ⟨shownFrom w.working (joinPath w.working "config.toml"), text⟩)
  | around {file : Option File} :
      w.find (joinPath w.working "config.toml") = some .directory →
      w.HasNearestFile "config.toml" file → HasWorkingFile w file

/-- A file in the working directory is the nearest one of its name. -/
theorem Rooted.hasNearestFile (h : w.Rooted) {file : File}
    (hfile : w.HasFile (joinPath w.working name) (some file)) :
    w.HasNearestFile name (some file) := by
  have hpath : w.pathOnWay name (segments w.working).length = joinPath w.working name := by
    rw [pathOnWay, List.take_length, h.fromRoot_segments]
  rw [← hpath] at hfile
  exact .nearest (Nat.le_refl _) hfile fun i hle hlt => by omega

theorem workingFile?_of_absent (h : w.find (joinPath w.working "config.toml") = none) :
    w.workingFile? = none := by
  have hstands : w.stands (joinPath w.working fileName) = false := by
    rw [stands, fileName, h]
    rfl
  rw [workingFile?, hstands]
  rfl

theorem workingFile?_of_entry {entry : Entry}
    (h : w.find (joinPath w.working "config.toml") = some entry) :
    w.workingFile? = w.nearestFile? "config.toml" := by
  have hstands : w.stands (joinPath w.working fileName) = true := by
    rw [stands, fileName, h]
    rfl
  rw [workingFile?, hstands]
  rfl

theorem workingFile?_eq_iff (hrooted : w.Rooted) :
    w.workingFile? = file ↔ w.HasWorkingFile file := by
  constructor
  · rintro rfl
    cases hfind : w.find (joinPath w.working "config.toml") with
    | none =>
        rw [workingFile?_of_absent hfind]
        exact .absent hfind
    | some entry =>
        rw [workingFile?_of_entry hfind]
        cases entry with
        | file text =>
            -- the search goes through the directory as its names spell it
            rw [nearestFile?_eq_iff.mpr (hrooted.hasNearestFile (.found hfind))]
            exact .present hfind
        | directory => exact .around hfind (nearestFile?_eq_iff.mp rfl)
  · intro h
    cases h with
    | absent hfind => exact workingFile?_of_absent hfind
    | present hfind =>
        rw [workingFile?_of_entry hfind]
        exact nearestFile?_eq_iff.mpr (hrooted.hasNearestFile (.found hfind))
    | around hfind hnearest =>
        rw [workingFile?_of_entry hfind]
        exact nearestFile?_eq_iff.mpr hnearest

/-- The nearest file of a name that is a path from the root is the file at that path. -/
theorem nearestFile?_of_root (h : name.startsWith "/" = true) :
    w.nearestFile? name = w.file? name := by
  have hjoin : ∀ directory, joinPath directory name = name := fun directory => by
    rw [joinPath, if_pos h]
  simp only [nearestFile?, hjoin]
  rw [withAncestors, List.range_succ_eq_map, List.map_cons, List.findSome?_cons]
  cases hfile : w.file? name with
  | some file => rfl
  | none => simp

/-! ## All files for a service -/

/-- The files of settings for a service, the less important first. -/
def FilesFor (w : Surroundings) (service : String) (files : List File) : Prop :=
  ∃ machine ofService ofWorking, w.HasMachineFile service machine ∧
    w.HasServiceFile service ofService ∧ w.HasWorkingFile ofWorking ∧
    files = machine.toList ++ ofService.toList ++ ofWorking.toList

theorem filesFor_iff {files : List File} (hrooted : w.Rooted) : w.FilesFor service files ↔
    files = (w.machineFile? service).toList ++ (w.serviceFile? service).toList ++
      w.workingFile?.toList := by
  simp [FilesFor, ← machineFile?_eq_iff, ← serviceFile?_eq_iff, ← workingFile?_eq_iff hrooted]

/-- Settings for a service are loaded from its files, and from nothing else but the
variables. -/
theorem FilesFor.loadForService {files : List File} (h : w.FilesFor service files)
    (hrooted : w.Rooted) : w.loadForService service = load files w.vars := by
  rw [Surroundings.loadForService, (filesFor_iff hrooted).mp h]

end Surroundings
end RowBridge.Config
