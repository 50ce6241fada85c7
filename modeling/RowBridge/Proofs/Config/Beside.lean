/-
# `RowBridge.Proofs.Config.Beside` — settings that differ in one place

Two environments that give one variable different values say the same everywhere
but at the path of that variable.  Two paths are apart if neither goes on from the
other (`Apart`); two trees beside a path are the same at all paths apart from it
(`Tree.Beside`).

    laid over either tree                         keeps them beside the path
    another tree                                  always
    laid under either tree
    another tree                                  if neither has a value on the way to the path

A later variable that says nothing at the path (`Environment.Silent`) also keeps what
is said there.  In the end the two are read alike, but for that one place.
-/
import RowBridge.Proofs.Config.Sections

namespace RowBridge.Config

/-! ## Paths that are apart -/

/-- Neither path goes on from the other. -/
def Apart (p q : List String) : Prop := ¬ p <+: q ∧ ¬ q <+: p

theorem apart_of_ne (before : List String) {p : List String} {name n : String} (h : n ≠ name) :
    Apart (before ++ name :: p) (before ++ [n]) := by
  rw [Apart, List.prefix_append_right_inj, List.prefix_append_right_inj]
  constructor
  · intro hfirst
    exact h (List.cons_prefix_cons.mp hfirst).1.symm
  · intro hfirst
    exact h (List.cons_prefix_cons.mp hfirst).1

namespace Tree

variable {p : List String}

/-- What stands on the way to a path is a table, if no value does. -/
theorem exists_branch_of_not_cuts {t u : Tree} (h : ¬ t.Cuts p) (before : List String)
    {rest : List String} (heq : p = before ++ rest) (hrest : rest ≠ [])
    (hat : t.at? before = some u) : ∃ source fields, u = .branch source fields := by
  cases u with
  | branch source fields => exact ⟨source, fields, rfl⟩
  | leaf source value => exact absurd ⟨before, rest, source, value, heq, hrest, hat⟩ h

theorem not_cuts_of_at? {t u : Tree} (h : t.at? p = some u) : ¬ t.Cuts p :=
  fun hcuts => nomatch hcuts.at?_eq_none.symm.trans h

theorem Cuts.merge {below above : Tree} (hbelow : below.Ordered) (habove : above.Ordered)
    (h : above.Cuts p) : (Tree.merge below above).Cuts p := by
  obtain ⟨before, rest, source, value, heq, hrest, hat⟩ := h
  refine ⟨before, rest, source, value, heq, hrest, ?_⟩
  rw [at?_merge_of_some hbelow habove hat, laidOn]

/-! ## Trees beside a path -/

/-- Two trees are the same apart from a path. -/
def Beside (p : List String) (a b : Tree) : Prop := ∀ q, Apart p q → a.at? q = b.at? q

theorem Beside.cuts {a b : Tree} (h : a.Beside p b) (hfree : ¬ a.Cuts p) {q : List String}
    (hq : Apart p q) (hcuts : a.Cuts q) : b.Cuts q := by
  obtain ⟨before, rest, source, value, rfl, hrest, hat⟩ := hcuts
  refine ⟨before, rest, source, value, rfl, hrest, ?_⟩
  have happart : Apart p before := by
    refine ⟨fun hfirst => hq.1 (hfirst.trans (List.prefix_append _ _)), fun hfirst => ?_⟩
    obtain ⟨more, rfl⟩ := hfirst
    cases more with
    | nil => exact hq.1 (by rw [List.append_nil]; exact List.prefix_append _ _)
    | cons name more => exact hfree ⟨before, _, source, value, rfl, List.cons_ne_nil _ _, hat⟩
  exact (h before happart).symm.trans hat

section
variable {a b c : Tree} (ha : a.Ordered) (hb : b.Ordered) (hc : c.Ordered) (h : a.Beside p b)
include ha hb hc h

/-- Another tree over the two. -/
theorem Beside.merge_below : (merge a c).Beside p (merge b c) := by
  intro q hq
  cases hat : c.at? q with
  | some t => rw [at?_merge_of_some ha hc hat, at?_merge_of_some hb hc hat, h q hq]
  | none =>
      by_cases hcuts : c.Cuts q
      · rw [at?_merge_of_cuts ha hc hcuts, at?_merge_of_cuts hb hc hcuts]
      · rw [at?_merge_of_none ha hc hat hcuts, at?_merge_of_none hb hc hat hcuts, h q hq]

/-- The two over another tree. -/
theorem Beside.merge_above (hleft : ¬ a.Cuts p) (hright : ¬ b.Cuts p) :
    (merge c a).Beside p (merge c b) := by
  intro q hq
  have hsame := h q hq
  cases hat : a.at? q with
  | some t => rw [at?_merge_of_some hc ha hat, at?_merge_of_some hc hb (hsame.symm.trans hat)]
  | none =>
      have hat' := hsame.symm.trans hat
      by_cases hcuts : a.Cuts q
      · rw [at?_merge_of_cuts hc ha hcuts, at?_merge_of_cuts hc hb (h.cuts hleft hq hcuts)]
      · have hback : b.Beside p a := fun q hq => (h q hq).symm
        have hcuts' : ¬ b.Cuts q := fun hb => hcuts (hback.cuts hright hq hb)
        rw [at?_merge_of_none hc ha hat hcuts, at?_merge_of_none hc hb hat' hcuts']

end

end Tree

/-! ## Variables of the environment -/

namespace Environment

variable {p : List String}

/-- On the way to the path of a variable there are only tables. -/
theorem nested_cases {v : Value} {path q : List String} {u : Tree}
    (h : (nested v path).at? q = some u) :
    path <+: q ∨ q <+: path ∧ ∃ source fields, u = .branch source fields := by
  induction path generalizing q with
  | nil => exact .inl List.nil_prefix
  | cons name path ih =>
      cases q with
      | nil => exact .inr ⟨List.nil_prefix, _, _, (Option.some.inj h).symm⟩
      | cons n q =>
          rw [nested, Tree.at?_cons] at h
          obtain ⟨t, hlookup, hat⟩ := Option.bind_eq_some_iff.mp h
          by_cases heq : n = name
          · subst heq
            obtain rfl := Option.some.inj (List.lookup_cons_self.symm.trans hlookup)
            exact (ih hat).imp (List.cons_prefix_cons.mpr ⟨rfl, ·⟩)
              (And.imp_left (List.cons_prefix_cons.mpr ⟨rfl, ·⟩))
          · cases (lookup_cons_of_ne _ _ heq).symm.trans hlookup

theorem at?_nested_self (v : Value) (path : List String) :
    (nested v path).at? path = some (.ofValue .environment v) := by
  induction path with
  | nil => rfl
  | cons name path ih =>
      rw [nested, Tree.at?_cons]
      exact (congrArg (Option.bind · _) List.lookup_cons_self).trans ih

section
variable {path : List String} (h : Apart path p) (v : Value)
include h

theorem at?_nested_of_apart : (nested v path).at? p = none := by
  cases hat : (nested v path).at? p with
  | none => rfl
  | some u =>
      rcases nested_cases hat with hback | ⟨honward, -⟩
      · exact absurd hback h.1
      · exact absurd honward h.2

theorem not_cuts_nested : ¬ (nested v path).Cuts p := by
  rintro ⟨before, rest, source, value, rfl, -, hat⟩
  rcases nested_cases hat with hback | ⟨-, _, _, hbranch⟩
  · exact h.1 (hback.trans (List.prefix_append _ _))
  · cases hbranch

end

theorem tree_append (before after : List (String × String)) :
    tree (before ++ after) = (tree before).bind (addAll after) :=
  List.foldlM_append

theorem addAll_cons (name value : String) (vars : List (String × String)) (t : Tree) :
    addAll ((name, value) :: vars) t = (addVariable t name value).bind (addAll vars) :=
  List.foldlM_cons

/-- A variable says nothing at a path, and no value on the way to it. -/
def Silent (p : List String) (var : String × String) : Prop :=
  ∀ path v, path? var.1 = some path → Shorthand.read var.2 = .ok v →
    (nested v path).at? p = none ∧ ¬ (nested v path).Cuts p

theorem silent_of_apart {name : String} {path : List String} (hpath : path? name = some path)
    (h : Apart path p) (value : String) : Silent p (name, value) := by
  intro path' v hpath' _
  cases hpath.symm.trans hpath'
  exact ⟨at?_nested_of_apart h v, not_cuts_nested h v⟩

theorem exists_addVariable {a b a' : Tree} (ha : Sound a) (hb : Sound b) (h : a.Beside p b)
    {name value : String} (hsilent : Silent p (name, value))
    (hadd : addVariable a name value = .ok a') :
    ∃ b', addVariable b name value = .ok b' ∧ a'.Beside p b' ∧ a'.at? p = a.at? p ∧
      b'.at? p = b.at? p := by
  unfold addVariable at hadd ⊢
  cases hpath : path? name with
  | none =>
      rw [hpath] at hadd
      cases hadd
      exact ⟨b, rfl, h, rfl, rfl⟩
  | some path =>
      rw [hpath] at hadd
      obtain ⟨v, hread, rfl⟩ := exists_of_map_eq_ok hadd
      have hordered := (spoken_nested (Shorthand.read_sayable hread) path).ordered
      obtain ⟨hnone, hfree⟩ := hsilent path v hpath hread
      refine ⟨b.merge (nested v path), by simp only [hread]; rfl, ?_, ?_, ?_⟩
      · exact h.merge_below ha.spoken.ordered hb.spoken.ordered hordered
      · exact Tree.at?_merge_of_none ha.spoken.ordered hordered hnone hfree
      · exact Tree.at?_merge_of_none hb.spoken.ordered hordered hnone hfree

theorem exists_addAll {vars : List (String × String)} (hsilent : ∀ var ∈ vars, Silent p var)
    {a b a' : Tree} (ha : Sound a) (hb : Sound b) (h : a.Beside p b)
    (hadd : addAll vars a = .ok a') :
    ∃ b', addAll vars b = .ok b' ∧ a'.Beside p b' ∧ a'.at? p = a.at? p ∧ b'.at? p = b.at? p := by
  induction vars generalizing a b with
  | nil =>
      cases hadd
      exact ⟨b, rfl, h, rfl, rfl⟩
  | cons var vars ih =>
      obtain ⟨hvar, hrest⟩ := List.forall_mem_cons.mp hsilent
      obtain ⟨a₁, hfirst, hadd⟩ := exists_of_bind_eq_ok hadd
      obtain ⟨b₁, hfirst', h₁, hleft, hright⟩ := exists_addVariable ha hb h hvar hfirst
      obtain ⟨b', hlater, h', hleft', hright'⟩ :=
        ih hrest (ha.addVariable hfirst) (hb.addVariable hfirst') h₁ hadd
      refine ⟨b', ?_, h', hleft'.trans hleft, hright'.trans hright⟩
      rw [addAll, List.foldlM_cons]
      exact (congrArg (· >>= addAll vars) hfirst').trans hlater

section
variable {t : Tree} (ht : Sound t) {path : List String} {v : Value} (hv : v.Sayable)
include ht hv

/-- A variable says its value in its place. -/
theorem at?_merge_nested : (t.merge (nested v path)).at? path =
    some ((Tree.ofValue .environment v).laidOn (Tree.fieldsOf (t.at? path))) :=
  Tree.at?_merge_of_some ht.spoken.ordered (spoken_nested hv path).ordered (at?_nested_self v path)

/-- And nothing anywhere else. -/
theorem beside_merge_nested : t.Beside path (t.merge (nested v path)) := fun _ hq =>
  (Tree.at?_merge_of_none ht.spoken.ordered (spoken_nested hv path).ordered
    (at?_nested_of_apart hq v) (not_cuts_nested hq v)).symm

end

end Environment

/-! ## One part of a record -/

/-- If a record is read from parts, and one part that does not fit is put in the place
of another, this is why it is not read any more. -/
theorem RecordForm.read_eq_error_of_part {α : Type} (form : RecordForm α) {path : List String}
    {source source' : Source} {parts parts' : List (String × Tree)} {record : α}
    {field : RecordField α} {u : Tree} {fault : Fault} (hnodup : form.names.Nodup)
    (hascending : Ascending parts') (hread : form.read path (.branch source parts) = .ok record)
    (hothers : ∀ name, name ≠ field.name → parts'.lookup name = parts.lookup name)
    (hfield : field ∈ form.fields) (hpart : parts'.lookup field.name = some u)
    (hfail : field.take (path ++ [field.name]) u = .error fault) :
    form.read path (.branch source' parts') = .error fault := by
  obtain ⟨htaken, -⟩ := read_table_eq_ok_iff.mp hread
  have htakes := (Taking.exists_takeAll_iff _).mp ⟨_, htaken⟩
  have hmem : ⟨path ++ [field.name], field, u⟩ ∈ form.fieldTakings path parts' :=
    mem_fieldTakings.mpr ⟨mem_of_lookup hpart, rfl, find?_name hnodup hfield⟩
  have htaken' : Taking.takeAll (form.fieldTakings path parts') form.blank = .error fault := by
    refine Taking.takeAll_eq_error hmem hfail (fun g hg fault' hfault => ?_) _
    obtain ⟨hgpart, hgpath, hgfind⟩ := mem_fieldTakings.mp hg
    have hlookup := hascending.lookup_of_mem hgpart
    by_cases hname : g.name = field.name
    · obtain ⟨gpath, gfield, t⟩ := g
      simp only at hgpart hgpath hgfind hlookup
      rw [hname] at hlookup hgpath hgfind
      rw [find?_name hnodup hfield] at hgfind
      cases hgfind
      cases hpart.symm.trans hlookup
      rw [Taking.take, hgpath] at hfault
      exact Except.error.inj (hfault.symm.trans hfail)
    · rw [hothers _ hname] at hlookup
      obtain ⟨set, hset⟩ := htakes g (mem_fieldTakings.mpr ⟨mem_of_lookup hlookup, hgpath, hgfind⟩)
      cases hset.symm.trans hfault
  rw [read, takeTable, takeFields_eq, htaken']
  rfl

end RowBridge.Config
