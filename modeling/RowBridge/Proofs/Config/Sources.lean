/-
# `RowBridge.Proofs.Config.Sources` — what a source can say

Files and variables can say truth values, numbers, texts, lists and tables, and
every table comes with its fields in order, each name once.  They cannot say that
something is absent: only what holds if nothing is said does.  So a tree that a
source says is in order and has a value wherever it has an end (`Tree.Spoken`).

This is a promise of the two readers, and each keeps it for the same reason:
fields enter a table by `putField` alone.  The reader of files builds its tables
over many lines, so there the promise is an invariant of the table that is being
built (`Toml.Fields.Sayable`).  Lists are taken as they are; nothing is ever laid
over their items.
-/
import RowBridge.Config.Layers
import RowBridge.Proofs.Config.Paths

namespace RowBridge.Config

/-- A value that can be said, with the fields of its tables in order. -/
inductive Value.Sayable : Value → Prop
  | bool (value : Bool) : Sayable (.bool value)
  | signed (value : Int) : Sayable (.signed value)
  | unsigned (value : Nat) : Sayable (.unsigned value)
  | float (value : Binary64) : Sayable (.float value)
  | text (value : String) : Sayable (.text value)
  | list (items : List Value) : Sayable (.list items)
  | table {fields : List (String × Value)} : Ascending fields →
      (∀ f ∈ fields, Sayable f.2) → Sayable (.table fields)

theorem Value.sayable_table_iff {fields : List (String × Value)} :
    (Value.table fields).Sayable ↔ Ascending fields ∧ ∀ f ∈ fields, f.2.Sayable := by
  constructor
  · rintro (_ | _ | _ | _ | _ | _ | ⟨hascending, hall⟩)
    exact ⟨hascending, hall⟩
  · rintro ⟨hascending, hall⟩
    exact .table hascending hall

theorem ascending_sortFields {α : Type} (fields : List (String × α)) :
    Ascending (sortFields fields) := by
  refine List.foldlRecOn fields _ List.Pairwise.nil ?_
  intro sorted hsorted f _
  exact hsorted.putField f.1 f.2

theorem mem_of_mem_sortFields {α : Type} {fields : List (String × α)} {f : String × α}
    (h : f ∈ sortFields fields) : f ∈ fields := by
  refine List.foldlRecOn (motive := fun sorted => f ∈ sorted → f ∈ fields) fields _
    (fun hmem => absurd hmem List.not_mem_nil) ?_ h
  intro sorted ih g hg hmem
  rcases mem_putField hmem with rfl | hold
  · exact hg
  · exact ih hold

theorem sayable_sortFields {fields : List (String × Value)} (h : ∀ f ∈ fields, f.2.Sayable) :
    (Value.table (sortFields fields)).Sayable :=
  .table (ascending_sortFields fields) fun f hf => h f (mem_of_mem_sortFields hf)

theorem ascending_map {α β : Type} {fields : List (String × α)} (h : Ascending fields)
    (f : String × α → β) : Ascending (fields.map fun field => (field.1, f field)) := by
  rw [Ascending, List.pairwise_map]
  exact h

/-! ## The tree of a value -/

namespace Tree

/-- No end of the tree is absent. -/
def Definite (t : Tree) : Prop := ∀ path source, t.at? path ≠ some (.leaf source .absent)

/-- A tree that a source can say. -/
structure Spoken (t : Tree) : Prop where
  ordered : t.Ordered
  definite : t.Definite

theorem ofFields_eq_map (source : Source) (fields : List (String × Value)) :
    ofFields source fields = fields.map fun f => (f.1, ofValue source f.2) := by
  induction fields with
  | nil => rfl
  | cons f rest ih =>
      obtain ⟨name, value⟩ := f
      rw [ofFields, ih, List.map_cons]

theorem definite_leaf {value : Value} (h : value ≠ .absent) (source : Source) :
    (leaf source value).Definite := by
  rintro (_ | ⟨name, path⟩) s hat
  · exact h (Tree.leaf.inj (Option.some.inj hat)).2
  · cases hat

theorem definite_branch {fields : List (String × Tree)} (h : ∀ f ∈ fields, f.2.Definite)
    (source : Source) : (branch source fields).Definite := by
  rintro (_ | ⟨name, path⟩) s hat
  · cases hat
  · rw [at?_cons] at hat
    obtain ⟨t, hlookup, hat⟩ := Option.bind_eq_some_iff.mp hat
    exact h (name, t) (mem_of_lookup hlookup) path s hat

theorem spoken_leaf {value : Value} (h : value ≠ .absent) (source : Source) :
    (leaf source value).Spoken :=
  ⟨.leaf source value, definite_leaf h source⟩

theorem spoken_branch {fields : List (String × Tree)} (hascending : Ascending fields)
    (hall : ∀ f ∈ fields, f.2.Spoken) (source : Source) : (branch source fields).Spoken :=
  ⟨.branch hascending fun f hf => (hall f hf).ordered,
    definite_branch (fun f hf => (hall f hf).definite) source⟩

theorem spoken_ofValue {value : Value} (h : value.Sayable) (source : Source) :
    (ofValue source value).Spoken := by
  induction h with
  | bool | signed | unsigned | float | text | list => exact spoken_leaf Value.noConfusion source
  | table hascending _ ih =>
      rw [ofValue, ofFields_eq_map]
      refine spoken_branch (ascending_map hascending _) ?_ source
      intro f hf
      obtain ⟨g, hg, rfl⟩ := List.mem_map.mp hf
      exact ih g hg

theorem Spoken.merge {below above : Tree} (hbelow : below.Spoken) (habove : above.Spoken) :
    (merge below above).Spoken := by
  refine ⟨hbelow.ordered.merge habove.ordered, fun path source hat => ?_⟩
  cases hfound : above.at? path with
  | some t =>
      rw [at?_merge_of_some hbelow.ordered habove.ordered hfound] at hat
      cases t with
      | leaf s value =>
          rw [laidOn] at hat
          exact habove.definite path source (hfound.trans hat)
      | branch s fields =>
          rw [laidOn] at hat
          cases hat
  | none =>
      by_cases hcuts : above.Cuts path
      · rw [at?_merge_of_cuts hbelow.ordered habove.ordered hcuts] at hat
        cases hat
      · rw [at?_merge_of_none hbelow.ordered habove.ordered hfound hcuts] at hat
        exact hbelow.definite path source hat

end Tree

section
variable {ε α β : Type}

theorem exists_of_bind_eq_ok {x : Except ε α} {f : α → Except ε β} {b : β}
    (h : x.bind f = .ok b) : ∃ a, x = .ok a ∧ f a = .ok b := by
  cases x with
  | error e => cases h
  | ok a => exact ⟨a, rfl, h⟩

theorem exists_of_map_eq_ok {x : Except ε α} {f : α → β} {b : β} (h : x.map f = .ok b) :
    ∃ a, x = .ok a ∧ f a = b := by
  cases x with
  | error e => cases h
  | ok a => exact ⟨a, rfl, Except.ok.inj h⟩

theorem eq_ok_of_toOption {x : Except ε α} {a : α} (h : x.toOption = some a) : x = .ok a := by
  cases x with
  | error e => cases h
  | ok a' => exact congrArg Except.ok (Option.some.inj h)

theorem exists_of_mapM_eq_ok {f : α → Except ε β} {as : List α} {bs : List β}
    (h : as.mapM f = .ok bs) : ∀ b ∈ bs, ∃ a ∈ as, f a = .ok b := by
  induction as generalizing bs with
  | nil =>
      cases h
      exact fun _ hmem => nomatch hmem
  | cons a rest ih =>
      rw [List.mapM_cons] at h
      obtain ⟨b, hb, h⟩ := exists_of_bind_eq_ok h
      obtain ⟨bs', hrest, h⟩ := exists_of_bind_eq_ok h
      cases h
      refine List.forall_mem_cons.mpr ⟨⟨a, List.mem_cons_self, hb⟩, fun b' hb' => ?_⟩
      obtain ⟨a', ha', hmade⟩ := ih hrest b' hb'
      exact ⟨a', List.mem_cons_of_mem _ ha', hmade⟩

end

/-! ## Values in one line of text -/

namespace Shorthand

open Text

/-- Whatever a reader takes from the left of a text has a property. -/
def Takes {α : Type} (reading : Reading α) (good : α → Prop) : Prop :=
  ∀ s v rest, reading s = .ok (v, rest) → good v

theorem sayable_wholeNumber {word : List Char} {v : Value} (h : wholeNumber? word = some v) :
    v.Sayable := by
  obtain ⟨n, -, hn⟩ := Option.bind_eq_some_iff.mp h
  split at hn
  · split at hn
    · exact Option.some.inj hn ▸ .signed n
    · cases hn
  · split at hn
    · exact Option.some.inj hn ▸ .unsigned n.toNat
    · cases hn

theorem sayable_ofWord (word : List Char) : (ofWord word).Sayable := by
  unfold ofWord
  cases hpoint : word.contains '.' with
  | true =>
      cases hfloat : decimal? word with
      | some x => exact .float x
      | none =>
          change ((wholeNumber? word).getD (.text (String.ofList word))).Sayable
          cases hwhole : wholeNumber? word with
          | some v => exact sayable_wholeNumber hwhole
          | none => exact .text _
  | false =>
      change ((wholeNumber? word).getD (.text (String.ofList word))).Sayable
      cases hwhole : wholeNumber? word with
      | some v => exact sayable_wholeNumber hwhole
      | none => exact .text _

section
variable {inner : Reading Value} (hinner : Takes inner Value.Sayable)
include hinner

theorem takes_field : Takes (field inner) fun f => f.2.Sayable := by
  intro s f rest h
  obtain ⟨⟨name, rest'⟩, -, hvalue⟩ := exists_of_bind_eq_ok h
  simp only at hvalue
  split at hvalue
  · obtain ⟨⟨v, rest''⟩, hinner', heq⟩ := exists_of_map_eq_ok hvalue
    cases heq
    exact hinner _ _ _ hinner'
  · cases hvalue

theorem takes_fields (fuel : Nat) : Takes (fields inner fuel) fun fs => ∀ f ∈ fs, f.2.Sayable := by
  induction fuel with
  | zero =>
      intro s fs rest h
      cases h
  | succ fuel ih =>
      intro s fs rest h
      unfold fields at h
      split at h
      · cases h
        exact fun f hf => nomatch hf
      · obtain ⟨⟨f, rest'⟩, hfield, hrest⟩ := exists_of_bind_eq_ok h
        have hf : f.2.Sayable := takes_field hinner _ _ _ hfield
        simp only at hrest
        split at hrest
        · obtain ⟨⟨fs', rest''⟩, hfields, heq⟩ := exists_of_map_eq_ok hrest
          cases heq
          exact List.forall_mem_cons.mpr ⟨hf, ih _ _ _ hfields⟩
        · cases hrest
          exact List.forall_mem_cons.mpr ⟨hf, fun g hg => nomatch hg⟩
        · cases hrest

theorem takes_plainValue : Takes (plainValue inner) Value.Sayable := by
  intro s v rest h
  unfold plainValue at h
  split at h
  · obtain ⟨⟨vs, rest'⟩, -, heq⟩ := exists_of_map_eq_ok h
    cases heq
    exact .list vs
  · obtain ⟨⟨fs, rest'⟩, hfields, heq⟩ := exists_of_map_eq_ok h
    cases heq
    exact sayable_sortFields (takes_fields hinner _ _ _ _ hfields)
  · obtain ⟨⟨t, rest'⟩, -, heq⟩ := exists_of_map_eq_ok h
    cases heq
    exact .text t
  · split at h
    · cases h
      exact .text _
    · cases h
  · split at h
    · cases h
      exact .bool true
    · cases h
      exact .bool false
    · cases h
      exact sayable_ofWord _

end

theorem takes_value (depth : Nat) : Takes (value depth) Value.Sayable := by
  induction depth with
  | zero =>
      intro s v rest h
      cases h
  | succ depth ih =>
      intro s v rest h
      obtain ⟨⟨v', rest'⟩, hplain, heq⟩ := exists_of_map_eq_ok h
      cases heq
      exact takes_plainValue ih _ _ _ hplain

theorem read_sayable {text : String} {v : Value} (h : read text = .ok v) : v.Sayable := by
  unfold read at h
  split at h
  next v' hvalue =>
    cases h
    exact takes_value _ _ _ _ hvalue
  · cases h
  · cases h
    exact .text text

end Shorthand

/-! ## The environment -/

namespace Environment

theorem splitPoints_ne_nil (s : List Char) : splitPoints s ≠ [] := by
  induction s with
  | nil => exact List.cons_ne_nil _ _
  | cons c rest ih =>
      unfold splitPoints
      split <;> exact List.cons_ne_nil _ _

theorem path?_ne_nil {name : String} {path : List String} (h : path? name = some path) :
    path ≠ [] := by
  unfold path? at h
  simp only at h
  split at h
  · split at h
    · cases h
    · cases h
      exact fun hnil => splitPoints_ne_nil _ (List.map_eq_nil_iff.mp hnil)
  · cases h

theorem spoken_nested {v : Value} (h : v.Sayable) (path : List String) :
    (nested v path).Spoken := by
  induction path with
  | nil => exact Tree.spoken_ofValue h .environment
  | cons name path ih =>
      refine Tree.spoken_branch (List.pairwise_singleton _ _) ?_ .environment
      intro f hf
      obtain rfl := List.mem_singleton.mp hf
      exact ih

/-- A tree of the environment is a table that a source can say. -/
structure Sound (t : Tree) : Prop where
  spoken : t.Spoken
  table : ∃ fields, t = .branch .environment fields

theorem sound_empty : Sound (.branch .environment []) where
  spoken := Tree.spoken_branch List.Pairwise.nil (fun _ hf => nomatch hf) .environment
  table := ⟨[], rfl⟩

theorem Sound.addVariable {t t' : Tree} (ht : Sound t) {name value : String}
    (h : addVariable t name value = .ok t') : Sound t' := by
  unfold Environment.addVariable at h
  split at h
  next path hpath =>
    obtain ⟨v, hread, rfl⟩ := exists_of_map_eq_ok h
    refine ⟨ht.spoken.merge (spoken_nested (Shorthand.read_sayable hread) path), ?_⟩
    cases path with
    | nil => exact absurd rfl (path?_ne_nil hpath)
    | cons n path => exact ⟨_, rfl⟩
  · cases h
    exact ht

/-- What the variables add to a tree. -/
def addAll (vars : List (String × String)) (t : Tree) : Except Abort Tree :=
  vars.foldlM (fun t (name, value) => addVariable t name value) t

/-- What holds of no settings, and is kept by every variable, holds of the whole. -/
theorem tree_induction (good : Tree → Prop) (hempty : good (.branch .environment []))
    (hadd : ∀ t t' name value, good t → addVariable t name value = .ok t' → good t')
    {vars : List (String × String)} {t : Tree} (h : tree vars = .ok t) : good t := by
  have hall : ∀ (vars : List (String × String)) (t t' : Tree), good t →
      addAll vars t = .ok t' → good t' := by
    intro vars
    induction vars with
    | nil =>
        intro t t' ht h
        cases h
        exact ht
    | cons var vars ih =>
        intro t t' ht h
        obtain ⟨u, hvar, hrest⟩ := exists_of_bind_eq_ok h
        exact ih u t' (hadd t u _ _ ht hvar) hrest
  exact hall vars _ t hempty h

theorem sound_tree {vars : List (String × String)} {t : Tree} (h : tree vars = .ok t) :
    Sound t :=
  tree_induction Sound sound_empty (fun _ _ _ _ ht hvar => ht.addVariable hvar) h

end Environment

/-! ## Files -/

namespace Toml

open Text

/-- Whatever a rule takes from the left of a text has a property. -/
def Takes {α : Type} (rule : Rule α) (good : α → Prop) : Prop :=
  ∀ s v rest, rule s = some (v, rest) → good v

theorem fieldValues_eq_map (fields : Fields) :
    fieldValues fields = fields.map fun f => (f.1, f.2.value) := by
  induction fields with
  | nil => rfl
  | cons f rest ih =>
      obtain ⟨name, node⟩ := f
      rw [fieldValues, ih, List.map_cons]

namespace Fields

/-- The table that is being built can be said as it is. -/
structure Sayable (fields : Fields) : Prop where
  ascending : Ascending fields
  sayable : ∀ f ∈ fields, f.2.value.Sayable

theorem Sayable.table {fields : Fields} (h : fields.Sayable) :
    (Value.table (fieldValues fields)).Sayable := by
  rw [fieldValues_eq_map]
  refine .table (ascending_map h.ascending _) fun f hf => ?_
  obtain ⟨g, hg, rfl⟩ := List.mem_map.mp hf
  exact h.sayable g hg

theorem sayable_of_table {origin : Origin} {fields : Fields}
    (h : (Node.table origin fields).value.Sayable) : fields.Sayable := by
  rw [Node.value, Value.sayable_table_iff, fieldValues_eq_map] at h
  have hascending : Ascending fields := by
    have hvalues := h.1
    rw [Ascending, List.pairwise_map] at hvalues
    exact hvalues
  refine ⟨hascending, fun f hf => ?_⟩
  exact h.2 _ (List.mem_map.mpr ⟨f, hf, rfl⟩)

theorem sayable_nil : Sayable [] where
  ascending := List.Pairwise.nil
  sayable _ h := nomatch h

theorem Sayable.putField {fields : Fields} (h : fields.Sayable) (name : String) {node : Node}
    (hnode : node.value.Sayable) : Sayable (putField name node fields) where
  ascending := h.ascending.putField name node
  sayable f hf := by
    rcases mem_putField hf with rfl | hold
    · exact hnode
    · exact h.sayable f hold

theorem Sayable.of_lookup {fields : Fields} (h : fields.Sayable) {name : String}
    {origin : Origin} {inner : Fields}
    (hlookup : fields.lookup name = some (.table origin inner)) : inner.Sayable :=
  sayable_of_table (h.sayable (name, _) (mem_of_lookup hlookup))

theorem sayable_tables (last : Fields) (before : List Fields) :
    (Node.tables last before).value.Sayable := by
  rw [Node.value]
  exact .list _

theorem Sayable.node {fields : Fields} (h : fields.Sayable) (origin : Origin) :
    (Node.table origin fields).value.Sayable := by
  rw [Node.value]
  exact h.table

/-- A change of tables that leaves what can be said. -/
def Keeps (change : Origin → Fields → Option Fields) : Prop :=
  ∀ origin fields fields', fields.Sayable → change origin fields = some fields' → fields'.Sayable

/-- The way to the table that is changed may lead through a list of tables; what
becomes of the tables in it does not matter. -/
theorem Keeps.alter {change : Origin → Fields → Option Fields} (h : Keeps change)
    (dotted : Bool) (path : List String) : Keeps (alter dotted change path) := by
  induction path with
  | nil => exact h
  | cons name path ih =>
      intro origin fields fields' hfields halter
      unfold Fields.alter at halter
      split at halter
      · obtain ⟨inner, hinner, heq⟩ := Option.bind_eq_some_iff.mp halter
        cases heq
        exact hfields.putField name ((ih _ _ _ sayable_nil hinner).node _)
      · cases halter
      next hlookup =>
        split at halter
        · cases halter
        · obtain ⟨inner, hinner, heq⟩ := Option.bind_eq_some_iff.mp halter
          cases heq
          exact hfields.putField name ((ih _ _ _ (hfields.of_lookup hlookup) hinner).node _)
      · obtain ⟨inner, -, heq⟩ := Option.bind_eq_some_iff.mp halter
        cases heq
        exact hfields.putField name (sayable_tables _ _)

theorem Sayable.assign? {fields fields' : Fields} (h : fields.Sayable) {key : List String}
    {v : Value} (hv : v.Sayable) (hassign : fields.assign? key v = some fields') :
    fields'.Sayable := by
  obtain ⟨⟨path, name⟩, -, halter⟩ := Option.bind_eq_some_iff.mp hassign
  refine Keeps.alter ?_ true path _ _ _ h halter
  intro origin inner inner' hinner hchange
  simp only at hchange
  split at hchange
  · unfold Fields.add? at hchange
    split at hchange
    · cases hchange
    · cases hchange
      exact hinner.putField name (by rw [Node.value]; exact hv)
  · cases hchange

theorem Sayable.openTable? {fields fields' : Fields} (h : fields.Sayable) {key : List String}
    (hopen : fields.openTable? key = some fields') : fields'.Sayable := by
  obtain ⟨⟨path, name⟩, -, halter⟩ := Option.bind_eq_some_iff.mp hopen
  refine Keeps.alter ?_ false path _ _ _ h halter
  intro origin inner inner' hinner hchange
  simp only at hchange
  split at hchange
  · cases hchange
    exact hinner.putField name (sayable_nil.node _)
  next hlookup =>
    cases hchange
    exact hinner.putField name ((hinner.of_lookup hlookup).node _)
  · cases hchange

theorem Sayable.openNext? {fields fields' : Fields} (h : fields.Sayable) {key : List String}
    (hopen : fields.openNext? key = some fields') : fields'.Sayable := by
  obtain ⟨⟨path, name⟩, -, halter⟩ := Option.bind_eq_some_iff.mp hopen
  refine Keeps.alter ?_ false path _ _ _ h halter
  intro origin inner inner' hinner hchange
  simp only at hchange
  split at hchange
  · cases hchange
    exact hinner.putField name (sayable_tables _ _)
  · cases hchange
    exact hinner.putField name (sayable_tables _ _)
  · cases hchange

theorem Sayable.assignUnder? {fields fields' : Fields} (h : fields.Sayable)
    {header key : List String} {v : Value} (hv : v.Sayable)
    (hassign : fields.assignUnder? header key v = some fields') : fields'.Sayable := by
  refine Keeps.alter ?_ false header _ _ _ h hassign
  exact fun _ _ _ hinner hchange => hinner.assign? hv hchange

end Fields

theorem sayable_moment (s : List Char) : (moment s).Sayable := by
  refine .table (List.pairwise_singleton _ _) fun f hf => ?_
  obtain rfl := List.mem_singleton.mp hf
  exact .text _

theorem sayable_signed64? {n : Int} {v : Value} (h : signed64? n = some v) : v.Sayable := by
  unfold signed64? at h
  split at h
  · exact Option.some.inj h ▸ .signed n
  · cases h

theorem sayable_basedInteger? {base : Nat} {s : List Char} {v : Value}
    (h : basedInteger? base s = some v) : v.Sayable := by
  obtain ⟨digits, -, h⟩ := Option.bind_eq_some_iff.mp h
  obtain ⟨n, -, h⟩ := Option.bind_eq_some_iff.mp h
  exact sayable_signed64? h

theorem sayable_integer? {s : List Char} {v : Value} (h : integer? s = some v) : v.Sayable := by
  unfold integer? at h
  split at h
  · exact sayable_basedInteger? h
  · exact sayable_basedInteger? h
  · exact sayable_basedInteger? h
  · obtain ⟨digits, -, h⟩ := Option.bind_eq_some_iff.mp h
    obtain ⟨n, -, h⟩ := Option.bind_eq_some_iff.mp h
    exact sayable_signed64? h

theorem sayable_float? {s : List Char} {v : Value} (h : float? s = some v) : v.Sayable := by
  unfold float? at h
  simp only at h
  split at h
  · exact Option.some.inj h ▸ .float _
  · split at h
    · exact Option.some.inj h ▸ .float _
    · obtain ⟨whole, -, h⟩ := Option.bind_eq_some_iff.mp h
      obtain ⟨tail, -, h⟩ := Option.bind_eq_some_iff.mp h
      obtain ⟨x, -, h⟩ := Option.bind_eq_some_iff.mp h
      split at h
      · cases h
      · exact Option.some.inj h ▸ .float x

theorem sayable_ofWord? {word : List Char} {v : Value} (h : ofWord? word = some v) :
    v.Sayable := by
  unfold ofWord? at h
  split at h
  · exact Option.some.inj h ▸ .bool true
  · split at h
    · exact Option.some.inj h ▸ .bool false
    · split at h
      · exact Option.some.inj h ▸ sayable_moment word
      · cases hfloat : float? word with
        | some x =>
            rw [hfloat] at h
            exact Option.some.inj h ▸ sayable_float? hfloat
        | none =>
            rw [hfloat] at h
            exact sayable_integer? h

theorem takes_scalar : Takes scalar Value.Sayable := by
  intro s v rest h
  unfold scalar at h
  simp only at h
  split at h
  · cases h
    exact sayable_moment _
  · obtain ⟨v', hword, heq⟩ := Option.map_eq_some_iff.mp h
    cases heq
    exact sayable_ofWord? hword

section
variable {inner : Rule Value} (hinner : Takes inner Value.Sayable)
include hinner

theorem takes_assignment : Takes (assignment inner) fun f => f.2.Sayable := by
  intro s f rest h
  obtain ⟨⟨k, rest'⟩, -, hvalue⟩ := Option.bind_eq_some_iff.mp h
  simp only at hvalue
  split at hvalue
  · obtain ⟨⟨v, rest''⟩, htaken, heq⟩ := Option.map_eq_some_iff.mp hvalue
    cases heq
    exact hinner _ _ _ htaken
  · cases hvalue

theorem takes_inlineFields (fuel : Nat) {fields : Fields} (hfields : fields.Sayable) :
    Takes (inlineFields inner fuel fields) Fields.Sayable := by
  induction fuel generalizing fields with
  | zero =>
      intro s fs rest h
      cases h
  | succ fuel ih =>
      intro s fs rest h
      obtain ⟨⟨⟨k, v⟩, rest'⟩, htaken, hrest⟩ := Option.bind_eq_some_iff.mp h
      have hv : v.Sayable := takes_assignment hinner _ _ _ htaken
      obtain ⟨fields', hassign, hrest⟩ := Option.bind_eq_some_iff.mp hrest
      have hfields' : fields'.Sayable := hfields.assign? hv hassign
      split at hrest
      · exact ih hfields' _ _ _ hrest
      · cases hrest
        exact hfields'
      · cases hrest

theorem takes_inlineTable : Takes (inlineTable inner) Fields.Sayable := by
  intro s fs rest h
  unfold inlineTable at h
  split at h
  · cases h
    exact Fields.sayable_nil
  · exact takes_inlineFields hinner _ Fields.sayable_nil _ _ _ h

end

theorem takes_flatValue : Takes flatValue Value.Sayable := by
  intro s v rest h
  unfold flatValue at h
  split at h
  · obtain ⟨⟨t, rest'⟩, -, heq⟩ := Option.map_eq_some_iff.mp h
    cases heq
    exact .text t
  · obtain ⟨⟨t, rest'⟩, -, heq⟩ := Option.map_eq_some_iff.mp h
    cases heq
    exact .text t
  · exact takes_scalar _ _ _ h

theorem takes_value (depth : Nat) : Takes (value depth) Value.Sayable := by
  induction depth with
  | zero => exact takes_flatValue
  | succ depth ih =>
      intro s v rest h
      unfold value at h
      split at h
      · obtain ⟨⟨vs, rest'⟩, -, heq⟩ := Option.map_eq_some_iff.mp h
        cases heq
        exact .list vs
      · obtain ⟨⟨fs, rest'⟩, htaken, heq⟩ := Option.map_eq_some_iff.mp h
        cases heq
        exact (takes_inlineTable ih _ _ _ htaken).table
      · exact takes_flatValue _ _ _ h

theorem sayable_line {r r' : Reading} {s rest : List Char} (hr : r.fields.Sayable)
    (h : line r s = some (r', rest)) : r'.fields.Sayable := by
  unfold line at h
  split at h
  · obtain ⟨⟨k, rest'⟩, -, h⟩ := Option.bind_eq_some_iff.mp h
    obtain ⟨fields, hopen, heq⟩ := Option.bind_eq_some_iff.mp h
    cases heq
    exact hr.openNext? hopen
  · obtain ⟨⟨k, rest'⟩, -, h⟩ := Option.bind_eq_some_iff.mp h
    obtain ⟨fields, hopen, heq⟩ := Option.bind_eq_some_iff.mp h
    cases heq
    exact hr.openTable? hopen
  · obtain ⟨⟨⟨k, v⟩, rest'⟩, htaken, h⟩ := Option.bind_eq_some_iff.mp h
    have hv : v.Sayable := takes_assignment (takes_value depthLimit) _ _ _ htaken
    obtain ⟨fields, hassign, h⟩ := Option.bind_eq_some_iff.mp h
    obtain ⟨rest'', -, heq⟩ := Option.bind_eq_some_iff.mp h
    cases heq
    exact hr.assignUnder? hv hassign

theorem sayable_linesFrom {fuel : Nat} {r : Reading} {s : List Char} {fields : Fields}
    (hr : r.fields.Sayable) (h : linesFrom fuel r s = some fields) : fields.Sayable := by
  induction fuel generalizing r s with
  | zero => cases h
  | succ fuel ih =>
      unfold linesFrom at h
      split at h
      · cases h
        exact hr
      · obtain ⟨rest, -, h⟩ := Option.bind_eq_some_iff.mp h
        exact ih hr h
      · split at h
        · exact ih hr h
        · obtain ⟨⟨r', rest⟩, hline, h⟩ := Option.bind_eq_some_iff.mp h
          exact ih (sayable_line hr hline) h

end Toml

/-! ## Wrapped values -/

theorem sayable_ofTable? {fields : List (String × Value)} {v : Value}
    (hfields : (Value.table fields).Sayable) (h : ofTable? fields = some v) : v.Sayable := by
  unfold ofTable? at h
  split at h
  · cases h
  · cases h
    cases hlookup : fields.lookup wrappedField with
    | none => exact hfields
    | some v => exact (Value.sayable_table_iff.mp hfields).2 _ (mem_of_lookup hlookup)

theorem unwrappedFields?_cases {fields fields' : List (String × Value)}
    (h : unwrappedFields? fields = some fields') :
    fields'.map (·.1) = fields.map (·.1) ∧
      ∀ f' ∈ fields', ∃ f ∈ fields, f.2.unwrapped? = some f'.2 := by
  induction fields generalizing fields' with
  | nil =>
      cases h
      exact ⟨rfl, fun _ hf => nomatch hf⟩
  | cons f rest ih =>
      obtain ⟨name, v⟩ := f
      unfold unwrappedFields? at h
      obtain ⟨v', hv, h⟩ := Option.bind_eq_some_iff.mp h
      obtain ⟨rest', hrest, h⟩ := Option.bind_eq_some_iff.mp h
      cases h
      obtain ⟨hnames, hall⟩ := ih hrest
      refine ⟨congrArg (name :: ·) hnames, List.forall_mem_cons.mpr ⟨?_, fun f' hf' => ?_⟩⟩
      · exact ⟨(name, v), List.mem_cons_self, hv⟩
      · obtain ⟨f, hf, hunwrapped⟩ := hall f' hf'
        exact ⟨f, List.mem_cons_of_mem _ hf, hunwrapped⟩

theorem sayable_unwrappedFields? {fields fields' : List (String × Value)}
    (hascending : Ascending fields)
    (hall : ∀ f ∈ fields, ∀ v, f.2.unwrapped? = some v → v.Sayable)
    (h : unwrappedFields? fields = some fields') : (Value.table fields').Sayable := by
  obtain ⟨hnames, hfrom⟩ := unwrappedFields?_cases h
  refine .table ?_ fun f' hf' => ?_
  · rw [Ascending, ← List.pairwise_map, hnames, List.pairwise_map]
    exact hascending
  · obtain ⟨f, hf, hunwrapped⟩ := hfrom f' hf'
    exact hall f hf f'.2 hunwrapped

theorem sayable_unwrapped? {v v' : Value} (hv : v.Sayable) (h : v.unwrapped? = some v') :
    v'.Sayable := by
  induction hv generalizing v' with
  | bool | signed | unsigned | float | text =>
      unfold Value.unwrapped? at h
      cases h
      constructor
  | list items =>
      unfold Value.unwrapped? at h
      obtain ⟨items', -, rfl⟩ := Option.map_eq_some_iff.mp h
      exact .list items'
  | table hascending _ ih =>
      unfold Value.unwrapped? at h
      obtain ⟨fields', hfields, hmade⟩ := Option.bind_eq_some_iff.mp h
      have hinner := sayable_unwrappedFields? hascending (fun f hf v hv => ih f hf hv) hfields
      exact sayable_ofTable? hinner hmade

namespace Toml

theorem read?_sayable {text : String} {fields : List (String × Value)}
    (h : read? text = some fields) : (Value.table fields).Sayable := by
  unfold read? at h
  simp only at h
  obtain ⟨built, hlines, hunwrapped⟩ := Option.bind_eq_some_iff.mp h
  have hbuilt : (Value.table (fieldValues built)).Sayable :=
    (sayable_linesFrom Fields.sayable_nil hlines).table
  obtain ⟨hascending, hall⟩ := Value.sayable_table_iff.mp hbuilt
  exact sayable_unwrappedFields? hascending (fun f hf _ => sayable_unwrapped? (hall f hf))
    hunwrapped

end Toml

theorem File.spoken_tree {f : File} {t : Tree} (h : f.tree = .ok t) :
    t.Spoken ∧ ∃ fields, t = .branch (.file f.shown) fields := by
  unfold File.tree at h
  split at h
  next fields hread =>
    cases h
    refine ⟨?_, _, rfl⟩
    have hspoken := Tree.spoken_ofValue (Toml.read?_sayable hread) (.file f.shown)
    rw [Tree.ofValue] at hspoken
    exact hspoken
  · cases h

theorem spoken_of_mapM_tree {files : List File} {trees : List Tree}
    (h : files.mapM File.tree = .ok trees) : ∀ t ∈ trees, t.Spoken := by
  intro t ht
  obtain ⟨file, -, htree⟩ := exists_of_mapM_eq_ok h t ht
  exact (File.spoken_tree htree).1

end RowBridge.Config
