/-
# `RowBridge.Proofs.Config.Priority` — which layer is heard

Layers are laid over each other one by one, field by field.  What comes of it is
seen from a path: a layer says a value there, or that a table is there, or nothing
(`Tree.said?`).  The layers have to agree about which paths are tables (`Agree`);
then what the whole says at a path is what the most important layer says of those
that say anything there (`said?_overlay`).

A layer that says a value where another has a table would replace all of it: that
is the one way in which a layer can reach beyond the paths at which it speaks.

A value that is absent counts as nothing said.  Only the layer below all others
has such values (`Tree.Definite`), and the whole has them only where that layer has.
-/
import RowBridge.Config.Layers
import RowBridge.Proofs.Config.Sources

namespace RowBridge.Config

/-! ## What is said at a path -/

inductive Said
  | value (v : Value)
  | table

namespace Tree

def saying? : Tree → Option Said
  | leaf _ .absent => none
  | leaf _ v => some (.value v)
  | branch _ _ => some .table

def said? (t : Tree) (path : List String) : Option Said := (t.at? path).bind saying?

theorem saying?_leaf {value : Value} (h : value ≠ .absent) (source : Source) :
    (leaf source value).saying? = some (.value value) := by
  cases value with
  | absent => exact absurd rfl h
  | _ => rfl

theorem saying?_eq_none_iff {t : Tree} :
    t.saying? = none ↔ ∃ source, t = .leaf source .absent := by
  cases t with
  | leaf source value =>
      by_cases h : value = .absent
      · subst h
        exact iff_of_true rfl ⟨source, rfl⟩
      · rw [saying?_leaf h]
        refine iff_of_false (fun hnone => nomatch hnone) ?_
        rintro ⟨source', heq⟩
        exact h (leaf.inj heq).2
  | branch source fields =>
      refine iff_of_false (fun hnone => nomatch hnone) ?_
      rintro ⟨source', heq⟩
      cases heq

theorem saying?_laidOn (t : Tree) (below : List (String × Tree)) :
    (t.laidOn below).saying? = t.saying? := by
  cases t with
  | leaf source value => rw [laidOn]
  | branch source fields =>
      rw [laidOn]
      rfl

theorem said?_of_at? {t u : Tree} {path : List String} (h : t.at? path = some u) :
    t.said? path = u.saying? := by
  rw [said?, h]
  rfl

theorem said?_eq_table_iff {t : Tree} {path : List String} :
    t.said? path = some .table ↔ ∃ source fields, t.at? path = some (.branch source fields) := by
  constructor
  · intro h
    obtain ⟨u, hat, hsaying⟩ := Option.bind_eq_some_iff.mp h
    cases u with
    | leaf source value => cases value <;> cases hsaying
    | branch source fields => exact ⟨source, fields, hat⟩
  · rintro ⟨source, fields, hat⟩
    exact said?_of_at? hat

/-- Where something is said below a path, there is a table at it. -/
theorem said?_table_of_append {t : Tree} {before rest : List String} (hrest : rest ≠ [])
    (h : t.said? (before ++ rest) ≠ none) : t.said? before = some .table := by
  rw [said?, at?_append] at h
  cases hat : t.at? before with
  | none =>
      rw [hat] at h
      exact absurd rfl h
  | some u =>
      rw [said?_of_at? hat]
      cases u with
      | leaf source value =>
          rw [hat] at h
          simp only [Option.bind, at?_leaf hrest] at h
          exact absurd rfl h
      | branch source fields => rfl

theorem Definite.said?_leaf {t : Tree} (h : t.Definite) {path : List String} {source : Source}
    {value : Value} (hat : t.at? path = some (.leaf source value)) :
    t.said? path = some (.value value) := by
  have hvalue : value ≠ .absent := fun heq => h path source (heq ▸ hat)
  rw [said?_of_at? hat, saying?_leaf hvalue]

end Tree

/-! ## Layers that agree -/

/-- No tree says a value where the other has a table. -/
def Tree.Agrees (t u : Tree) : Prop :=
  ∀ path v, t.said? path = some .table → u.said? path ≠ some (.value v)

namespace Tree

/-! Whether two trees agree is seen by walking through the tables that both have. -/

mutual

def clashes : Tree → Tree → Bool
  | leaf _ _, _ => false
  | branch _ _, leaf _ value => match value with
    | .absent => false
    | _ => true
  | branch _ fields, branch _ others => fieldsClash fields others

def fieldsClash : List (String × Tree) → List (String × Tree) → Bool
  | [], _ => false
  | (name, t) :: rest, others =>
      (match others.lookup name with
        | some u => clashes t u
        | none => false) || fieldsClash rest others

end

theorem clashes_of_lookup {fields others : List (String × Tree)}
    (h : fieldsClash fields others = false) {name : String} {t u : Tree}
    (ht : fields.lookup name = some t) (hu : others.lookup name = some u) :
    t.clashes u = false := by
  induction fields with
  | nil => cases ht
  | cons f rest ih =>
      obtain ⟨n, t'⟩ := f
      rw [fieldsClash, Bool.or_eq_false_iff] at h
      by_cases heq : name = n
      · subst heq
        obtain rfl := Option.some.inj (List.lookup_cons_self.symm.trans ht)
        rw [hu] at h
        exact h.1
      · exact ih h.2 ((lookup_cons_of_ne _ _ heq).symm.trans ht)

theorem agrees_of_clashes {t u : Tree} (h : t.clashes u = false) : t.Agrees u := by
  intro path v
  induction path generalizing t u with
  | nil =>
      intro ht hu
      cases t with
      | leaf source value => cases value <;> cases ht
      | branch source fields =>
          cases u with
          | branch source' others => cases hu
          | leaf source' value =>
              cases value with
              | absent => cases hu
              | _ => cases h
  | cons name path ih =>
      intro ht hu
      rw [said?, at?_cons] at ht hu
      cases htfound : t.fields.lookup name with
      | none => rw [htfound] at ht; cases ht
      | some t' =>
          cases hufound : u.fields.lookup name with
          | none => rw [hufound] at hu; cases hu
          | some u' =>
              rw [htfound] at ht
              rw [hufound] at hu
              cases t with
              | leaf source value => cases htfound
              | branch source fields =>
                  cases u with
                  | leaf source' value => cases hufound
                  | branch source' others =>
                      rw [clashes] at h
                      exact ih (clashes_of_lookup h htfound hufound) ht hu

end Tree

/-- The layers agree about which paths are tables. -/
def Agree (layers : List Tree) : Prop := ∀ t ∈ layers, ∀ u ∈ layers, t.Agrees u

theorem agree_of_clashes {layers : List Tree}
    (h : layers.all (fun t => layers.all fun u => !t.clashes u) = true) : Agree layers := by
  intro t ht u hu
  have hpair := List.all_eq_true.mp (List.all_eq_true.mp h t ht) u hu
  exact Tree.agrees_of_clashes ((Bool.not_eq_true' _).mp hpair)

/-- What is said at a path by the most important layer that says anything there. -/
def prevailing (layers : List Tree) (path : List String) : Option Said :=
  layers.reverse.findSome? (·.said? path)

theorem prevailing_cons (t : Tree) (layers : List Tree) (path : List String) :
    prevailing (t :: layers) path = (prevailing layers path).or (t.said? path) := by
  rw [prevailing, List.reverse_cons, List.findSome?_append]
  cases ht : t.said? path with
  | none => simp [prevailing, ht]
  | some what => simp [prevailing, ht]

/-- What prevails is said by one layer, and no more important one says anything. -/
theorem prevailing_eq_some_iff {layers : List Tree} {path : List String} {what : Said} :
    prevailing layers path = some what ↔ ∃ before t after, layers = before ++ t :: after ∧
      t.said? path = some what ∧ ∀ u ∈ after, u.said? path = none := by
  rw [prevailing, List.findSome?_eq_some_iff]
  constructor
  · rintro ⟨after, t, before, heq, ht, hafter⟩
    refine ⟨before.reverse, t, after.reverse, ?_, ht, fun u hu => hafter u (List.mem_reverse.mp hu)⟩
    rw [← List.reverse_reverse layers, heq]
    simp
  · rintro ⟨before, t, after, rfl, ht, hafter⟩
    refine ⟨after.reverse, t, before.reverse, ?_, ht, fun u hu => hafter u (List.mem_reverse.mp hu)⟩
    simp

theorem prevailing_eq_none_iff {layers : List Tree} {path : List String} :
    prevailing layers path = none ↔ ∀ t ∈ layers, t.said? path = none := by
  simp [prevailing, List.findSome?_eq_none_iff]

theorem Agree.subset {layers layers' : List Tree} (h : Agree layers) (hsub : layers' ⊆ layers) :
    Agree layers' :=
  fun t ht u hu => h t (hsub ht) u (hsub hu)

/-- Where a layer has a table, that is what prevails. -/
theorem Agree.prevailing_table {layers : List Tree} (h : Agree layers) {t : Tree}
    (hmem : t ∈ layers) {path : List String} (ht : t.said? path = some .table) :
    prevailing layers path = some .table := by
  cases hprevails : prevailing layers path with
  | none =>
      rw [prevailing_eq_none_iff.mp hprevails t hmem] at ht
      cases ht
  | some what =>
      cases what with
      | table => rfl
      | value v =>
          obtain ⟨before, u, after, rfl, hu, -⟩ := prevailing_eq_some_iff.mp hprevails
          have hin : u ∈ before ++ u :: after := List.mem_append_right _ List.mem_cons_self
          exact absurd hu (h t hmem u hin path v ht)

/-! ## Layers laid over each other -/

namespace Tree

section
variable {below above : Tree} (hbelow : below.Ordered) (habove : above.Spoken)
  (hagree : below.Agrees above ∧ above.Agrees below)
include hbelow habove hagree

theorem said?_merge (path : List String) :
    (merge below above).said? path = (above.said? path).or (below.said? path) := by
  cases hat : above.at? path with
  | some t =>
      have hsaying : t.saying? ≠ none := fun hnone => by
        obtain ⟨source, rfl⟩ := saying?_eq_none_iff.mp hnone
        exact habove.definite path source hat
      obtain ⟨what, hwhat⟩ := Option.ne_none_iff_exists'.mp hsaying
      rw [said?_of_at? (at?_merge_of_some hbelow habove.ordered hat), saying?_laidOn,
        said?_of_at? hat, hwhat]
      rfl
  | none =>
      have hnone : above.said? path = none := by
        rw [said?, hat]
        rfl
      rw [hnone, Option.none_or]
      by_cases hcuts : above.Cuts path
      · rw [said?, at?_merge_of_cuts hbelow habove.ordered hcuts]
        obtain ⟨before, rest, source, value, rfl, hrest, hleaf⟩ := hcuts
        -- what is said below the value of `above` would need a table in its place
        have hvalue := habove.definite.said?_leaf hleaf
        by_cases hsaid : below.said? (before ++ rest) = none
        · exact hsaid.symm
        · exact absurd hvalue (hagree.1 before value (said?_table_of_append hrest hsaid))
      · rw [said?, at?_merge_of_none hbelow habove.ordered hat hcuts]
        rfl

omit hagree in
theorem absent_of_merge {path : List String} {source : Source}
    (h : (merge below above).at? path = some (.leaf source .absent)) :
    below.at? path = some (.leaf source .absent) := by
  cases hat : above.at? path with
  | some t =>
      rw [at?_merge_of_some hbelow habove.ordered hat] at h
      cases t with
      | leaf source' value =>
          rw [laidOn] at h
          cases h
          exact absurd hat (habove.definite path source)
      | branch source' fields =>
          rw [laidOn] at h
          cases h
  | none =>
      by_cases hcuts : above.Cuts path
      · rw [at?_merge_of_cuts hbelow habove.ordered hcuts] at h
        cases h
      · rw [at?_merge_of_none hbelow habove.ordered hat hcuts] at h
        exact h

theorem Agrees.merge_left {u : Tree} (hb : below.Agrees u) (ha : above.Agrees u) :
    (merge below above).Agrees u := by
  intro path v hmerged
  rw [said?_merge hbelow habove hagree] at hmerged
  cases hsaid : above.said? path with
  | none =>
      rw [hsaid, Option.none_or] at hmerged
      exact hb path v hmerged
  | some what =>
      rw [hsaid, Option.some_or] at hmerged
      exact ha path v (hsaid.trans hmerged)

theorem Agrees.merge_right {u : Tree} (hb : u.Agrees below) (ha : u.Agrees above) :
    u.Agrees (merge below above) := by
  intro path v hu hmerged
  rw [said?_merge hbelow habove hagree] at hmerged
  cases hsaid : above.said? path with
  | none =>
      rw [hsaid, Option.none_or] at hmerged
      exact hb path v hu hmerged
  | some what =>
      rw [hsaid, Option.some_or] at hmerged
      exact ha path v hu (hsaid.trans hmerged)

end

theorem Agrees.refl (t : Tree) : t.Agrees t := by
  intro path v htable hvalue
  cases htable.symm.trans hvalue

end Tree

open Config.Tree

/-- Laying one more layer over keeps the agreement with the layers that follow. -/
theorem Agree.merge {below above : Tree} {layers : List Tree} (hbelow : below.Ordered)
    (habove : above.Spoken) (h : Agree (below :: above :: layers)) :
    Agree (Tree.merge below above :: layers) := by
  have hb : below ∈ below :: above :: layers := .head _
  have ha : above ∈ below :: above :: layers := .tail _ (.head _)
  have hagree := And.intro (h _ hb _ ha) (h _ ha _ hb)
  intro t ht u hu
  rcases List.mem_cons.mp ht with rfl | ht
  · rcases List.mem_cons.mp hu with rfl | hu
    · exact Agrees.refl _
    · have hu' : u ∈ below :: above :: layers := .tail _ (.tail _ hu)
      exact Agrees.merge_left hbelow habove hagree (h _ hb u hu') (h _ ha u hu')
  · have ht' : t ∈ below :: above :: layers := .tail _ (.tail _ ht)
    rcases List.mem_cons.mp hu with rfl | hu
    · exact Agrees.merge_right hbelow habove hagree (h t ht' _ hb) (h t ht' _ ha)
    · exact h t ht' u (.tail _ (.tail _ hu))

section
variable {base : Tree} {layers : List Tree} (hbase : base.Ordered)
  (hspoken : ∀ t ∈ layers, t.Spoken)
include hbase hspoken

theorem ordered_foldl_merge : (layers.foldl merge base).Ordered := by
  induction layers generalizing base with
  | nil => exact hbase
  | cons t rest ih =>
      obtain ⟨ht, hrest⟩ := List.forall_mem_cons.mp hspoken
      exact ih (hbase.merge ht.ordered) hrest

theorem absent_of_foldl_merge {path : List String} {source : Source}
    (h : (layers.foldl merge base).at? path = some (.leaf source .absent)) :
    base.at? path = some (.leaf source .absent) := by
  induction layers generalizing base with
  | nil => exact h
  | cons t rest ih =>
      obtain ⟨ht, hrest⟩ := List.forall_mem_cons.mp hspoken
      exact absent_of_merge hbase ht (ih (hbase.merge ht.ordered) hrest h)

theorem said?_foldl_merge (hagree : Agree (base :: layers)) (path : List String) :
    (layers.foldl merge base).said? path = prevailing (base :: layers) path := by
  induction layers generalizing base with
  | nil => rw [prevailing_cons]; rfl
  | cons t rest ih =>
      obtain ⟨ht, hrest⟩ := List.forall_mem_cons.mp hspoken
      have hpair : base.Agrees t ∧ t.Agrees base :=
        ⟨hagree _ (.head _) _ (.tail _ (.head _)), hagree _ (.tail _ (.head _)) _ (.head _)⟩
      rw [List.foldl_cons, ih (hbase.merge ht.ordered) hrest (hagree.merge hbase ht),
        prevailing_cons, said?_merge hbase ht hpair, prevailing_cons, prevailing_cons,
        Option.or_assoc]

end

end RowBridge.Config
