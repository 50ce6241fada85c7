/-
# `RowBridge.Proofs.Config.Paths` — trees seen from their paths

A tree is looked into along a path of names (`Tree.at?`).  Laying one tree over
another is a walk over two lists of fields at once; seen from a path it is a case
distinction, and what follows only uses these cases:

    the upper tree                  at that path, the merged tree has
    has something there             that, laid over what the lower one has there
    has a value on the way there    nothing
    neither                         what the lower one has there

Both trees have to list their fields in order, each name once (`Tree.Ordered`):
a field is looked for only as far as its name could stand.
-/
import RowBridge.Config.Tree

namespace RowBridge.Config

/-! ## Fields by name -/

section
variable {α : Type}

/-- Fields in ascending order of their names, each name once. -/
def Ascending (fields : List (String × α)) : Prop := fields.Pairwise (·.1 < ·.1)

theorem lt_of_not_lt_of_ne {a b : String} (hlt : ¬ a < b) (hne : b ≠ a) : b < a :=
  Std.not_le.mp fun hle => hne (Std.le_antisymm (Std.not_lt.mp hlt) hle)

theorem lookup_cons_of_ne {name n : String} (value : α) (fields : List (String × α))
    (h : name ≠ n) : ((n, value) :: fields).lookup name = fields.lookup name := by
  rw [List.lookup_cons, beq_false_of_ne h]

theorem mem_of_lookup {name : String} {value : α} {fields : List (String × α)}
    (h : fields.lookup name = some value) : (name, value) ∈ fields := by
  obtain ⟨before, after, rfl, -⟩ := List.lookup_eq_some_iff.mp h
  exact List.mem_append_right _ List.mem_cons_self

theorem Ascending.lookup_of_lt {name : String} {fields : List (String × α)}
    (h : ∀ f ∈ fields, name < f.1) : fields.lookup name = none := by
  refine List.lookup_eq_none_iff.mpr fun f hf => ?_
  have hne : name ≠ f.1 := fun heq => String.lt_irrefl _ (heq ▸ h f hf)
  simpa using hne

theorem Ascending.head_lt {name : String} {value : α} {fields : List (String × α)}
    (h : Ascending ((name, value) :: fields)) : ∀ f ∈ fields, name < f.1 :=
  (List.pairwise_cons.mp h).1

theorem Ascending.tail {f : String × α} {fields : List (String × α)}
    (h : Ascending (f :: fields)) : Ascending fields :=
  (List.pairwise_cons.mp h).2

theorem Ascending.lookup_of_mem {name : String} {value : α} {fields : List (String × α)}
    (h : Ascending fields) (hmem : (name, value) ∈ fields) : fields.lookup name = some value := by
  induction fields with
  | nil => cases hmem
  | cons f rest ih =>
      rcases List.mem_cons.mp hmem with rfl | hrest
      · exact List.lookup_cons_self
      · have hne : name ≠ f.1 :=
          fun heq => String.lt_irrefl f.1 (heq ▸ h.head_lt (name, value) hrest)
        rw [lookup_cons_of_ne _ _ hne]
        exact ih h.tail hrest

theorem lookup_putField_self (name : String) (value : α) (fields : List (String × α)) :
    (putField name value fields).lookup name = some value := by
  induction fields with
  | nil => exact List.lookup_cons_self
  | cons f rest ih =>
      obtain ⟨n, v⟩ := f
      rw [putField]
      split
      · exact List.lookup_cons_self
      · split
        · exact List.lookup_cons_self
        next hne =>
          rw [lookup_cons_of_ne _ _ (Ne.symm hne)]
          exact ih

theorem lookup_putField_of_ne {name m : String} (h : m ≠ name) (value : α)
    (fields : List (String × α)) : (putField name value fields).lookup m = fields.lookup m := by
  induction fields with
  | nil => exact lookup_cons_of_ne value [] h
  | cons f rest ih =>
      obtain ⟨n, v⟩ := f
      rw [putField]
      split
      · exact lookup_cons_of_ne value _ h
      · split
        next heq =>
          rw [heq, lookup_cons_of_ne value rest h, lookup_cons_of_ne v rest h]
        · rw [List.lookup_cons, List.lookup_cons, ih]

theorem mem_putField {name : String} {value : α} {fields : List (String × α)} {f : String × α}
    (h : f ∈ putField name value fields) : f = (name, value) ∨ f ∈ fields := by
  induction fields with
  | nil => exact .inl (List.mem_singleton.mp h)
  | cons g rest ih =>
      obtain ⟨n, v⟩ := g
      rw [putField] at h
      split at h
      · exact List.mem_cons.mp h
      · split at h
        · exact (List.mem_cons.mp h).imp_right (List.mem_cons_of_mem _)
        · rcases List.mem_cons.mp h with rfl | hrest
          · exact .inr List.mem_cons_self
          · exact (ih hrest).imp_right (List.mem_cons_of_mem _)

theorem Ascending.putField {fields : List (String × α)} (h : Ascending fields) (name : String)
    (value : α) : Ascending (putField name value fields) := by
  induction fields with
  | nil => exact List.pairwise_singleton _ _
  | cons f rest ih =>
      obtain ⟨n, v⟩ := f
      rw [Config.putField]
      split
      next hlt =>
        refine List.pairwise_cons.mpr ⟨fun g hg => ?_, h⟩
        rcases List.mem_cons.mp hg with rfl | hrest
        · exact hlt
        · exact String.lt_trans hlt (h.head_lt g hrest)
      next hlt =>
        split
        next heq => exact List.pairwise_cons.mpr ⟨heq ▸ h.head_lt, h.tail⟩
        next hne =>
          refine List.pairwise_cons.mpr ⟨fun g hg => ?_, ih h.tail⟩
          rcases mem_putField hg with rfl | hrest
          · exact lt_of_not_lt_of_ne hlt hne
          · exact h.head_lt g hrest

end

namespace Tree

/-! ## Trees in order -/

/-- Every table of the tree lists its fields in order. -/
inductive Ordered : Tree → Prop
  | leaf (source : Source) (value : Value) : Ordered (.leaf source value)
  | branch {source : Source} {fields : List (String × Tree)} : Ascending fields →
      (∀ f ∈ fields, Ordered f.2) → Ordered (.branch source fields)

/-- Fields in order, with trees in order. -/
structure OrderedFields (fields : List (String × Tree)) : Prop where
  ascending : Ascending fields
  ordered : ∀ f ∈ fields, f.2.Ordered

theorem orderedFields_nil : OrderedFields [] where
  ascending := List.Pairwise.nil
  ordered _ h := nomatch h

theorem Ordered.fields {t : Tree} (h : t.Ordered) : OrderedFields t.fields := by
  cases h with
  | leaf source value => exact orderedFields_nil
  | branch hascending hordered => exact ⟨hascending, hordered⟩

theorem Ordered.of_lookup {t u : Tree} {name : String} (h : t.Ordered)
    (hlookup : t.fields.lookup name = some u) : u.Ordered :=
  h.fields.ordered (name, u) (mem_of_lookup hlookup)

/-- The fields of what stands somewhere, if it is a table. -/
def fieldsOf (t : Option Tree) : List (String × Tree) := (t.map fields).getD []

theorem OrderedFields.fieldsOf_lookup {below : List (String × Tree)} (h : OrderedFields below)
    (name : String) : OrderedFields (fieldsOf (below.lookup name)) := by
  cases hlookup : below.lookup name with
  | none => exact orderedFields_nil
  | some t => exact (h.ordered (name, t) (mem_of_lookup hlookup)).fields

/-! ## Laying fields over fields -/

section
variable {name : String} {lay : List (String × Tree) → Tree} {below : List (String × Tree)}

theorem lookup_layField_self (h : Ascending below) :
    (layField name lay below).lookup name = some (lay (fieldsOf (below.lookup name))) := by
  induction below with
  | nil => exact List.lookup_cons_self
  | cons f rest ih =>
      obtain ⟨n, t⟩ := f
      rw [layField]
      split
      next hlt =>
        have hnone : ((n, t) :: rest).lookup name = none := by
          refine Ascending.lookup_of_lt fun g hg => ?_
          rcases List.mem_cons.mp hg with rfl | hrest
          · exact hlt
          · exact String.lt_trans hlt (h.head_lt g hrest)
        rw [hnone]
        exact List.lookup_cons_self
      · split
        next heq =>
          rw [heq, List.lookup_cons_self, List.lookup_cons_self]
          rfl
        next hne =>
          rw [lookup_cons_of_ne _ _ (Ne.symm hne), lookup_cons_of_ne _ _ (Ne.symm hne)]
          exact ih h.tail

theorem lookup_layField_of_ne {m : String} (hne : m ≠ name) :
    (layField name lay below).lookup m = below.lookup m := by
  induction below with
  | nil => exact lookup_cons_of_ne _ [] hne
  | cons f rest ih =>
      obtain ⟨n, t⟩ := f
      rw [layField]
      split
      · exact lookup_cons_of_ne _ _ hne
      · split
        next heq => rw [heq, lookup_cons_of_ne _ _ hne, lookup_cons_of_ne _ _ hne]
        · rw [List.lookup_cons, List.lookup_cons, ih]

theorem mem_layField {f : String × Tree} (h : f ∈ layField name lay below) :
    f.1 = name ∧ (f.2 = lay [] ∨ ∃ t, (name, t) ∈ below ∧ f.2 = lay t.fields) ∨ f ∈ below := by
  induction below with
  | nil =>
      obtain rfl := List.mem_singleton.mp h
      exact .inl ⟨rfl, .inl rfl⟩
  | cons g rest ih =>
      obtain ⟨n, t⟩ := g
      rw [layField] at h
      split at h
      · rcases List.mem_cons.mp h with rfl | hrest
        · exact .inl ⟨rfl, .inl rfl⟩
        · exact .inr hrest
      · split at h
        next heq =>
          rcases List.mem_cons.mp h with rfl | hrest
          · exact .inl ⟨heq, .inr ⟨t, heq ▸ List.mem_cons_self, rfl⟩⟩
          · exact .inr (List.mem_cons_of_mem _ hrest)
        · rcases List.mem_cons.mp h with rfl | hrest
          · exact .inr List.mem_cons_self
          · rcases ih hrest with ⟨hname, hmade⟩ | hold
            · refine .inl ⟨hname, hmade.imp_right ?_⟩
              rintro ⟨u, hu, hmade⟩
              exact ⟨u, List.mem_cons_of_mem _ hu, hmade⟩
            · exact .inr (List.mem_cons_of_mem _ hold)

theorem ascending_layField (h : Ascending below) : Ascending (layField name lay below) := by
  induction below with
  | nil => exact List.pairwise_singleton _ _
  | cons f rest ih =>
      obtain ⟨n, t⟩ := f
      rw [layField]
      split
      next hlt =>
        refine List.pairwise_cons.mpr ⟨fun g hg => ?_, h⟩
        rcases List.mem_cons.mp hg with rfl | hrest
        · exact hlt
        · exact String.lt_trans hlt (h.head_lt g hrest)
      next hlt =>
        split
        · exact List.pairwise_cons.mpr ⟨h.head_lt, h.tail⟩
        next hne =>
          refine List.pairwise_cons.mpr ⟨fun g hg => ?_, ih h.tail⟩
          rcases mem_layField hg with ⟨hname, _⟩ | hrest
          · rw [hname]
            exact lt_of_not_lt_of_ne hlt hne
          · exact h.head_lt g hrest

theorem OrderedFields.layField (h : OrderedFields below)
    (hlay : ∀ fields, OrderedFields fields → (lay fields).Ordered) :
    OrderedFields (layField name lay below) where
  ascending := ascending_layField h.ascending
  ordered f hf := by
    rcases mem_layField hf with ⟨_, hmade | ⟨t, ht, hmade⟩⟩ | hold
    · exact hmade ▸ hlay [] orderedFields_nil
    · exact hmade ▸ hlay t.fields (h.ordered _ ht).fields
    · exact h.ordered f hold

end

theorem lookup_layFields {above below : List (String × Tree)} (habove : Ascending above)
    (hbelow : Ascending below) (name : String) :
    (layFields above below).lookup name =
      match above.lookup name with
      | some t => some (t.laidOn (fieldsOf (below.lookup name)))
      | none => below.lookup name := by
  induction above generalizing below with
  | nil => rfl
  | cons f rest ih =>
      obtain ⟨n, t⟩ := f
      rw [layFields, ih habove.tail (ascending_layField hbelow)]
      by_cases heq : name = n
      · subst heq
        rw [Ascending.lookup_of_lt habove.head_lt, List.lookup_cons_self]
        exact lookup_layField_self hbelow
      · rw [lookup_cons_of_ne _ _ heq, lookup_layField_of_ne heq]

theorem OrderedFields.layFields {above below : List (String × Tree)}
    (habove : ∀ f ∈ above, ∀ fields, OrderedFields fields → (f.2.laidOn fields).Ordered)
    (hbelow : OrderedFields below) : OrderedFields (layFields above below) := by
  induction above generalizing below with
  | nil => exact hbelow
  | cons f rest ih =>
      obtain ⟨n, t⟩ := f
      rw [Tree.layFields]
      exact ih (fun g hg => habove g (List.mem_cons_of_mem _ hg))
        (hbelow.layField (habove (n, t) List.mem_cons_self))

theorem Ordered.laidOn {t : Tree} (h : t.Ordered) :
    ∀ below, OrderedFields below → (t.laidOn below).Ordered := by
  induction h with
  | leaf source value =>
      intro below _
      rw [Tree.laidOn]
      exact .leaf source value
  | branch hascending hordered ih =>
      intro below hbelow
      rw [Tree.laidOn]
      obtain ⟨hmerged, hall⟩ := OrderedFields.layFields ih hbelow
      exact .branch hmerged hall

theorem Ordered.merge {below above : Tree} (hbelow : below.Ordered) (habove : above.Ordered) :
    (merge below above).Ordered :=
  habove.laidOn below.fields hbelow.fields

/-! ## Paths -/

/-- What stands at a path. -/
def at? : (path : List String) → Tree → Option Tree
  | [], t => some t
  | name :: path, t => (t.fields.lookup name).bind (at? path)

@[simp] theorem at?_nil (t : Tree) : t.at? [] = some t := rfl

theorem at?_cons (name : String) (path : List String) (t : Tree) :
    t.at? (name :: path) = (t.fields.lookup name).bind (at? path) := rfl

theorem at?_singleton (t : Tree) (name : String) : t.at? [name] = t.fields.lookup name := by
  rw [at?_cons]
  exact Option.bind_fun_some _

theorem at?_append (path path' : List String) (t : Tree) :
    t.at? (path ++ path') = (t.at? path).bind (at? path') := by
  induction path generalizing t with
  | nil => rfl
  | cons name path ih =>
      rw [List.cons_append, at?_cons, at?_cons]
      cases t.fields.lookup name with
      | none => rfl
      | some u => exact ih u

/-- The parts of a table, seen from above it. -/
theorem at?_concat {t : Tree} {path : List String} {source : Source}
    {fields : List (String × Tree)} (h : t.at? path = some (.branch source fields))
    (name : String) : t.at? (path ++ [name]) = fields.lookup name := by
  rw [at?_append, h]
  exact at?_singleton _ name

theorem at?_leaf {path : List String} (h : path ≠ []) (source : Source) (value : Value) :
    at? path (.leaf source value) = none := by
  cases path with
  | nil => exact absurd rfl h
  | cons name path => rfl

theorem Ordered.at? {t u : Tree} {path : List String} (h : t.Ordered)
    (hat : t.at? path = some u) : u.Ordered := by
  induction path generalizing t with
  | nil => exact Option.some.inj hat ▸ h
  | cons name path ih =>
      rw [at?_cons] at hat
      obtain ⟨v, hlookup, hrest⟩ := Option.bind_eq_some_iff.mp hat
      exact ih (h.of_lookup hlookup) hrest

/-- A value stands on the way to a path, before its end. -/
def Cuts (t : Tree) (path : List String) : Prop :=
  ∃ before rest source value, path = before ++ rest ∧ rest ≠ [] ∧
    t.at? before = some (.leaf source value)

theorem Cuts.at?_eq_none {t : Tree} {path : List String} (h : t.Cuts path) :
    t.at? path = none := by
  obtain ⟨before, rest, source, value, rfl, hrest, hat⟩ := h
  rw [at?_append, hat]
  exact at?_leaf hrest source value

theorem not_cuts_nil (t : Tree) : ¬ t.Cuts [] := by
  rintro ⟨before, rest, source, value, hpath, hrest, -⟩
  exact hrest (List.append_eq_nil_iff.mp hpath.symm).2

theorem cuts_cons_of_leaf (source : Source) (value : Value) (name : String)
    (path : List String) : (leaf source value).Cuts (name :: path) :=
  ⟨[], name :: path, source, value, rfl, List.cons_ne_nil _ _, rfl⟩

theorem cuts_cons_iff {source : Source} {fields : List (String × Tree)} {name : String}
    {path : List String} : (branch source fields).Cuts (name :: path) ↔
      ∃ t, fields.lookup name = some t ∧ t.Cuts path := by
  constructor
  · rintro ⟨before, rest, s, value, hpath, hrest, hat⟩
    cases before with
    | nil => cases hat
    | cons n before =>
        obtain ⟨rfl, rfl⟩ := List.cons.inj hpath
        rw [at?_cons] at hat
        obtain ⟨t, hlookup, hat⟩ := Option.bind_eq_some_iff.mp hat
        exact ⟨t, hlookup, before, rest, s, value, rfl, hrest, hat⟩
  · rintro ⟨t, hlookup, before, rest, s, value, rfl, hrest, hat⟩
    refine ⟨name :: before, rest, s, value, rfl, hrest, ?_⟩
    rw [at?_cons]
    exact Option.bind_eq_some_iff.mpr ⟨t, hlookup, hat⟩

theorem bind_at?_cons (t : Option Tree) (name : String) (path : List String) :
    t.bind (at? (name :: path)) = ((fieldsOf t).lookup name).bind (at? path) := by
  cases t with
  | none => rfl
  | some t => rfl

/-- A tree laid over fields, seen from a path; `below` is what has these fields, if
anything has. -/
theorem at?_laidOn {above : Tree} (below : Option Tree) (habove : above.Ordered)
    (hbelow : OrderedFields (fieldsOf below)) (path : List String) :
    (∀ t, above.at? path = some t →
      (above.laidOn (fieldsOf below)).at? path =
        some (t.laidOn (fieldsOf (below.bind (at? path))))) ∧
    (above.Cuts path → (above.laidOn (fieldsOf below)).at? path = none) ∧
    (above.at? path = none → ¬ above.Cuts path →
      (above.laidOn (fieldsOf below)).at? path = below.bind (at? path)) := by
  induction path generalizing above below with
  | nil =>
      refine ⟨?_, fun hcuts => absurd hcuts (not_cuts_nil above), fun hnone => nomatch hnone⟩
      intro t hat
      obtain rfl := Option.some.inj hat
      have hhere : below.bind (at? []) = below := Option.bind_fun_some below
      rw [hhere]
      rfl
  | cons name path ih =>
      cases above with
      | leaf source value =>
          rw [laidOn]
          refine ⟨fun t hat => (nomatch hat), fun _ => rfl, fun _ hcuts => ?_⟩
          exact absurd (cuts_cons_of_leaf source value name path) hcuts
      | branch source fields =>
          have hmerged : ((branch source fields).laidOn (fieldsOf below)).at? (name :: path) =
              ((layFields fields (fieldsOf below)).lookup name).bind (at? path) := by
            rw [laidOn, at?_cons]
            rfl
          have hfields : Ascending fields := habove.fields.ascending
          have hat : at? (name :: path) (branch source fields) =
              (fields.lookup name).bind (at? path) := rfl
          rw [hmerged, lookup_layFields hfields hbelow.ascending, cuts_cons_iff, hat,
            bind_at?_cons]
          cases hfound : fields.lookup name with
          | none =>
              refine ⟨fun t hat => (nomatch hat), ?_, fun _ _ => rfl⟩
              rintro ⟨t, ht, -⟩
              cases ht
          | some t =>
              have ht : t.Ordered := habove.of_lookup hfound
              obtain ⟨hsome, hcuts, hnone⟩ :=
                ih ((fieldsOf below).lookup name) ht (hbelow.fieldsOf_lookup name)
              refine ⟨hsome, ?_, fun hat hfree => hnone hat fun hcut => hfree ⟨t, rfl, hcut⟩⟩
              rintro ⟨u, hu, hcut⟩
              obtain rfl := Option.some.inj hu
              exact hcuts hcut

section
variable {below above : Tree} (hbelow : below.Ordered) (habove : above.Ordered)
  {path : List String}
include hbelow habove

theorem at?_merge_of_some {t : Tree} (hat : above.at? path = some t) :
    (merge below above).at? path = some (t.laidOn (fieldsOf (below.at? path))) :=
  (at?_laidOn (some below) habove hbelow.fields path).1 t hat

theorem at?_merge_of_cuts (hcuts : above.Cuts path) : (merge below above).at? path = none :=
  (at?_laidOn (some below) habove hbelow.fields path).2.1 hcuts

theorem at?_merge_of_none (hat : above.at? path = none) (hcuts : ¬ above.Cuts path) :
    (merge below above).at? path = below.at? path :=
  (at?_laidOn (some below) habove hbelow.fields path).2.2 hat hcuts

end

end Tree
end RowBridge.Config
