/-
# `RowBridge.Proofs.Config.Renaming` — what does not depend on the names of sources

Every value knows its source, and nothing is decided by it: sources are only shown
in messages.  So if the sources of a tree are renamed (`Tree.mapSource`), it is laid
over others as before, it is read as before, and a fault is the same but for its
source (`Reader.Blind`).

A file is renamed that way if the same text stands elsewhere: settings loaded from
the one are those loaded from the other (`load_singleton`).
-/
import RowBridge.Proofs.Config.Sections

namespace RowBridge.Config

/-! ## Trees -/

namespace Tree

section
variable (σ : Source → Source)

mutual

def mapSource : Tree → Tree
  | leaf source value => leaf (σ source) value
  | branch source fields => branch (σ source) (mapSources fields)

def mapSources : List (String × Tree) → List (String × Tree)
  | [] => []
  | (name, t) :: rest => (name, mapSource t) :: mapSources rest

end

@[simp] theorem source_mapSource (t : Tree) : (t.mapSource σ).source = σ t.source := by
  cases t <;> rfl

@[simp] theorem describe_mapSource (t : Tree) : (t.mapSource σ).describe = t.describe := by
  cases t <;> rfl

@[simp] theorem fields_mapSource (t : Tree) :
    (t.mapSource σ).fields = mapSources σ t.fields := by
  cases t <;> rfl

mutual

theorem mapSource_ofValue (source : Source) (v : Value) :
    (ofValue source v).mapSource σ = ofValue (σ source) v := by
  match v with
  | .table fields => rw [ofValue, ofValue, mapSource, mapSources_ofFields source fields]
  | .absent | .bool _ | .signed _ | .unsigned _ | .float _ | .text _ | .list _ => rfl

theorem mapSources_ofFields (source : Source) (fields : List (String × Value)) :
    mapSources σ (ofFields source fields) = ofFields (σ source) fields := by
  match fields with
  | [] => rfl
  | (name, v) :: rest =>
      rw [ofFields, ofFields, mapSources, mapSource_ofValue source v,
        mapSources_ofFields source rest]

end

theorem mapSources_layField (name : String) {lay lay' : List (String × Tree) → Tree}
    (h : ∀ fields, (lay fields).mapSource σ = lay' (mapSources σ fields))
    (below : List (String × Tree)) :
    mapSources σ (layField name lay below) = layField name lay' (mapSources σ below) := by
  induction below with
  | nil => simp only [layField, mapSources, h]
  | cons f rest ih =>
      obtain ⟨n, t⟩ := f
      rw [mapSources, layField, layField]
      split
      · simp only [mapSources, h]
      · split
        · simp only [mapSources, h, fields_mapSource]
        · simp only [mapSources, ih]

mutual

theorem mapSource_laidOn (t : Tree) (below : List (String × Tree)) :
    (t.laidOn below).mapSource σ = (t.mapSource σ).laidOn (mapSources σ below) := by
  match t with
  | leaf source value => rw [laidOn, mapSource, laidOn]
  | branch source above =>
      rw [laidOn, mapSource, mapSources_layFields above below, mapSource, laidOn]

theorem mapSources_layFields (above below : List (String × Tree)) :
    mapSources σ (layFields above below) =
      layFields (mapSources σ above) (mapSources σ below) := by
  match above with
  | [] => rw [layFields, mapSources, layFields]
  | (name, t) :: rest =>
      rw [layFields, mapSources_layFields rest, mapSources, layFields,
        mapSources_layField σ name (mapSource_laidOn t)]

end

theorem mapSource_merge (below above : Tree) :
    (merge below above).mapSource σ = merge (below.mapSource σ) (above.mapSource σ) := by
  rw [merge, merge, mapSource_laidOn, fields_mapSource]

end

end Tree

/-! ## Readers -/

def Fault.mapSource (σ : Source → Source) (f : Fault) : Fault := { f with source := σ f.source }

/-- A reader decides nothing by sources. -/
def Reader.Blind {α : Type} (read : Reader α) : Prop :=
  ∀ σ path t, read path (t.mapSource σ) = (read path t).mapError (Fault.mapSource σ)

theorem Reader.mismatch_mapSource (σ : Source → Source) (expected : String) (path : List String)
    (t : Tree) : mismatch expected path (t.mapSource σ) =
      (mismatch expected path t).mapSource σ := by
  rw [mismatch, mismatch, Fault.mapSource, Tree.describe_mapSource, Tree.source_mapSource]

theorem Reader.text_blind : Reader.text.Blind := by
  intro σ path t
  cases t with
  | branch source fields => exact congrArg Except.error (mismatch_mapSource σ _ path _)
  | leaf source v =>
      cases v with
      | text s => rfl
      | _ => rfl

theorem Reader.below_blind (limit : Nat) (kind : String) : (Reader.below limit kind).Blind := by
  intro σ path t
  cases t with
  | branch source fields => exact congrArg Except.error (mismatch_mapSource σ _ path _)
  | leaf source v =>
      cases v with
      | signed n =>
          simp only [Tree.mapSource, below]
          split <;> rfl
      | unsigned n =>
          simp only [Tree.mapSource, below]
          split <;> rfl
      | _ => rfl

section
variable {α : Type}

theorem mapError_map {ε ε' β : Type} (x : Except ε α) (f : α → β) (g : ε → ε') :
    (x.map f).mapError g = (x.mapError g).map f := by
  cases x <;> rfl

theorem mapError_bind {ε ε' β : Type} (x : Except ε α) (f : α → Except ε β) (g : ε → ε') :
    (x.bind f).mapError g = (x.mapError g).bind fun a => (f a).mapError g := by
  cases x <;> rfl

theorem Reader.Blind.map {β : Type} {read : Reader α} (h : read.Blind) (f : α → β) :
    Reader.Blind fun path t => (read path t).map f := by
  intro σ path t
  simp only [h σ path t, mapError_map]

theorem Reader.Blind.optional {read : Reader α} (h : read.Blind) :
    (Reader.optional read).Blind := by
  intro σ path t
  cases t with
  | branch source fields => exact h.map some σ path (.branch source fields)
  | leaf source v =>
      cases v with
      | absent => rfl
      | _ => exact h.map some σ path (.leaf source _)

namespace RecordForm

variable {form : RecordForm α} (σ : Source → Source)
  (hfields : ∀ field ∈ form.fields, field.take.Blind)

theorem missing?_mapSources (parts : List (String × Tree)) :
    form.missing? (Tree.mapSources σ parts) = form.missing? parts := by
  have hany : ∀ name, (Tree.mapSources σ parts).any (·.1 == name) = parts.any (·.1 == name) := by
    intro name
    induction parts with
    | nil => rfl
    | cons part rest ih => simp only [Tree.mapSources, List.any_cons, ih]
  simp only [missing?, hany]

include hfields

theorem takeFields_mapSources (path : List String) (parts : List (String × Tree)) (record : α) :
    form.takeFields path (Tree.mapSources σ parts) record =
      (form.takeFields path parts record).mapError (Fault.mapSource σ) := by
  induction parts generalizing record with
  | nil => rfl
  | cons part rest ih =>
      obtain ⟨name, t⟩ := part
      rw [Tree.mapSources, takeFields, takeFields]
      cases hfind : form.fields.find? (·.name == name) with
      | none => exact ih record
      | some field =>
          simp only [hfields field (List.mem_of_find?_eq_some hfind) σ, mapError_bind, ih]

theorem takeItems_mapSource (path : List String) (source : Source) (index : Nat)
    {fields : List (RecordField α)} (hsub : ∀ field ∈ fields, field ∈ form.fields)
    (items : List Value) (record : α) :
    form.takeItems path (σ source) index fields items record =
      (form.takeItems path source index fields items record).mapError (Fault.mapSource σ) := by
  induction fields generalizing index items record with
  | nil => rfl
  | cons field fields ih =>
      obtain ⟨hfield, hrest⟩ := List.forall_mem_cons.mp hsub
      cases items with
      | nil =>
          rw [takeItems, takeItems]
          split
          · rfl
          · exact ih (index + 1) hrest [] record
      | cons item items =>
          have htake := hfields field hfield σ (path ++ [toString index]) (.ofValue source item)
          rw [Tree.mapSource_ofValue] at htake
          simp only [takeItems, htake, mapError_bind, ih _ hrest]

/-- A record is read without a look at sources if its fields are. -/
theorem read_blind : form.read.Blind := by
  intro σ path t
  cases t with
  | branch source parts =>
      rw [Tree.mapSource, read, read, takeTable, takeTable, takeFields_mapSources σ hfields,
        missing?_mapSources, mapError_bind]
      refine congrArg _ (funext fun record => ?_)
      cases form.missing? parts <;> rfl
  | leaf source v =>
      cases v with
      | list items => exact takeItems_mapSource σ hfields path source 0 (fun _ h => h) items _
      | _ => rfl

end RecordForm
end

/-! ## The settings -/

theorem ofTree_mapSource (σ : Source → Source) (t : Tree) :
    Settings.ofTree (t.mapSource σ) = (Settings.ofTree t).mapError (Fault.mapSource σ) := by
  have htext : ∀ {α : Type} (set : String → α → α),
      Reader.Blind fun path t => (Reader.text path t).map set := Reader.text_blind.map
  have hnumber : ∀ {α : Type} (limit : Nat) (kind : String) (set : Nat → α → α),
      Reader.Blind fun path t => (Reader.below limit kind path t).map set :=
    fun limit kind => (Reader.below_blind limit kind).map
  have hservice : ServiceSettings.form.read.Blind := RecordForm.read_blind
    (List.forall_mem_cons.mpr ⟨htext _, List.forall_mem_cons.mpr ⟨htext _,
      List.forall_mem_singleton.mpr (htext _)⟩⟩)
  have hstream : StreamSettings.form.read.Blind := RecordForm.read_blind
    (List.forall_mem_cons.mpr ⟨hnumber _ _ _, List.forall_mem_cons.mpr ⟨hnumber _ _ _,
      List.forall_mem_cons.mpr ⟨(Reader.below_blind _ _).optional.map _,
      List.forall_mem_singleton.mpr (hnumber _ _ _)⟩⟩⟩)
  have hdatabase : DatabaseSettings.form.read.Blind := RecordForm.read_blind
    (List.forall_mem_cons.mpr ⟨htext _, List.forall_mem_cons.mpr ⟨hnumber _ _ _,
      List.forall_mem_cons.mpr ⟨hnumber _ _ _, List.forall_mem_cons.mpr ⟨hnumber _ _ _,
      List.forall_mem_cons.mpr ⟨hnumber _ _ _,
      List.forall_mem_singleton.mpr (hnumber _ _ _)⟩⟩⟩⟩⟩)
  have hsettings : Settings.form.read.Blind := RecordForm.read_blind
    (List.forall_mem_cons.mpr ⟨hservice.map _, List.forall_mem_cons.mpr
      ⟨hstream.map _, List.forall_mem_singleton.mpr (hdatabase.optional.map _)⟩⟩)
  exact hsettings σ [] t

/-! ## Files -/

/-- What was said in a file, as said in the file of this name. -/
def Source.inFile (shown : String) : Source → Source
  | file _ => .file shown
  | source => source

/-- Why settings do not load, with its file named so. -/
def LoadError.inFile (shown : String) : LoadError → LoadError
  | unreadable _ => .unreadable shown
  | unfit fault => .unfit (fault.mapSource (Source.inFile shown))
  | error => error

theorem settle_mapSource (shown : String) (t : Tree) :
    settle (t.mapSource (Source.inFile shown)) = (settle t).mapError (LoadError.inFile shown) := by
  have hread' := ofTree_mapSource (Source.inFile shown) t
  obtain ⟨fault, hread, h⟩ | ⟨s, hread, ⟨e, hvalid, h⟩ | ⟨hvalid, h⟩⟩ := settle_cases t
  · rw [hread] at hread'
    rw [h, settle, hread']
    rfl
  · rw [hread] at hread'
    rw [h]
    exact settle_eq_refused_iff.mpr ⟨s, hread', hvalid⟩
  · rw [hread] at hread'
    rw [h]
    exact settle_eq_ok_iff.mpr ⟨hread', hvalid⟩

theorem Environment.mapSource_tree {σ : Source → Source} (hσ : σ .environment = .environment)
    {vars : List (String × String)} {t : Tree} (h : tree vars = .ok t) : t.mapSource σ = t := by
  have hnested : ∀ v path, (nested v path).mapSource σ = nested v path := by
    intro v path
    induction path with
    | nil => rw [nested, Tree.mapSource_ofValue, hσ]
    | cons name path ih => rw [nested, Tree.mapSource, Tree.mapSources, Tree.mapSources, ih, hσ]
  refine tree_induction (fun t => t.mapSource σ = t) ?_ ?_ h
  · rw [Tree.mapSource, Tree.mapSources, hσ]
  · intro t t' name value ht hadd
    unfold addVariable at hadd
    split at hadd
    next path hpath =>
      obtain ⟨v, -, rfl⟩ := exists_of_map_eq_ok hadd
      rw [Tree.mapSource_merge, ht, hnested]
    · cases hadd
      exact ht

theorem builtIn_mapSource (shown : String) : builtIn.mapSource (Source.inFile shown) = builtIn := by
  rw [builtIn, Tree.mapSource, Tree.mapSources_ofFields]
  rfl

/-- Settings loaded from one file are the ones loaded from another of the same text,
and fail for the same reason. -/
theorem load_singleton (text shown shown' : String) (vars : List (String × String)) :
    load [⟨shown', text⟩] vars =
      (load [⟨shown, text⟩] vars).mapError (LoadError.inFile shown') := by
  cases henvironment : Environment.tree vars with
  | error abort =>
      rw [load, load, henvironment]
      rfl
  | ok environment =>
      have hload : ∀ file, load [file] vars =
          file.tree.bind fun t => settle (overlay [t, environment]) := by
        intro file
        rw [load, henvironment, List.mapM_cons, List.mapM_nil]
        cases file.tree <;> rfl
      rw [hload, hload, File.tree, File.tree]
      cases Toml.read? text with
      | none => rfl
      | some fields =>
          have hsaid : environment.mapSource (Source.inFile shown') = environment :=
            Environment.mapSource_tree rfl henvironment
          refine Eq.trans (congrArg settle ?_) (settle_mapSource shown' _)
          simp only [overlay, List.foldl_cons, List.foldl_nil, Tree.mapSource_merge, hsaid,
            builtIn_mapSource, Tree.mapSource, Tree.mapSources_ofFields]
          rfl

end RowBridge.Config
