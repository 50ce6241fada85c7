/-
# `RowBridge.Proofs.Bindings` — bindings are an ordered map

A statement's parameters are taken by position or by name, and both ways have to
give the same values.  What a sequence of bindings leaves behind is a matter of
the sequence alone:

    which names, in which order     each name where it was first bound
    which value                     the one that was bound to the name last

`Bindings.Reflects` says so of the two views that a driver has, the list of the
names and the lookup by name; every further binding keeps it (`Reflects.bind`).
No name occurs twice, so a list of pairs is read off these two views
(`toList_eq_map`), and whatever is bound later, the parameters that are there stay
where they are.

**Proved here** of every sequence of bindings, of values of any types that can be
bound (`ordered_map`).
-/
import Mathlib.Data.Finset.Card
import RowBridge.Bindings

namespace RowBridge

/-! ## Names without repetition -/

section
variable {α : Type} [DecidableEq α]

theorem eraseDups_concat (as : List α) (a : α) :
    (as ++ [a]).eraseDups = if a ∈ as then as.eraseDups else as.eraseDups ++ [a] := by
  rw [List.eraseDups_append]
  by_cases h : a ∈ as <;> simp [List.removeAll, List.eraseDups_cons, h]

theorem nodup_eraseDups (as : List α) : as.eraseDups.Nodup := by
  induction as using List.reverseRecOn with
  | nil => exact List.nodup_nil
  | append_singleton as a ih =>
      rw [eraseDups_concat]
      split
      · exact ih
      next h =>
        refine List.nodup_append.mpr ⟨ih, List.nodup_singleton a, ?_⟩
        rintro b hb c hc rfl
        cases List.mem_singleton.mp hc
        exact h (List.mem_eraseDups.mp hb)

end

/-! ## Sequences of bindings -/

/-- A name, and a value of a type that can be bound. -/
structure Binding where
  {kind : Type}
  [bindable : ToBindValue kind]
  name : String
  value : kind

attribute [instance] Binding.bindable

/-- What is bound. -/
def Binding.bound (binding : Binding) : BindValue := toBindValue binding.value

/-- The value that was bound to a name last. -/
def lastBound? (made : List Binding) (name : String) : Option BindValue :=
  (made.reverse.find? (·.name == name)).map Binding.bound

theorem lastBound?_append (made later : List Binding) (name : String) :
    lastBound? (made ++ later) name = (lastBound? later name).or (lastBound? made name) := by
  simp only [lastBound?, List.reverse_append, List.find?_append, Option.map_or]

theorem lastBound?_concat (made : List Binding) (binding : Binding) (name : String) :
    lastBound? (made ++ [binding]) name =
      if binding.name = name then some binding.bound else lastBound? made name := by
  rw [lastBound?_append]
  by_cases h : binding.name = name <;> simp [lastBound?, h]

theorem lastBound?_eq_none_iff {made : List Binding} {name : String} :
    lastBound? made name = none ↔ name ∉ made.map (·.name) := by
  simp [lastBound?, List.find?_eq_none]

namespace Bindings

/-- The bindings after a sequence of them. -/
def after (made : List Binding) : Bindings :=
  made.foldl (fun b binding => b.bind binding.name binding.value) empty

@[simp] theorem length_names (b : Bindings) : b.names.length = b.size := List.length_map _

/-! ## One binding -/

theorem map_fst_upsert (name : String) (value : BindValue) (pairs : List (String × BindValue)) :
    (upsert name value pairs).map (·.1) =
      if name ∈ pairs.map (·.1) then pairs.map (·.1) else pairs.map (·.1) ++ [name] := by
  induction pairs with
  | nil => rfl
  | cons pair rest ih =>
      obtain ⟨n, v⟩ := pair
      by_cases hn : n = name
      · simp [upsert, hn]
      · simp only [upsert, if_neg hn, List.map_cons, ih, List.mem_cons, Ne.symm hn, false_or]
        split <;> rfl

theorem find?_upsert (name other : String) (value : BindValue) (pairs : List (String × BindValue)) :
    (upsert name value pairs).find? (·.1 == other) =
      if name = other then some (name, value) else pairs.find? (·.1 == other) := by
  induction pairs with
  | nil => by_cases ho : name = other <;> simp [upsert, ho]
  | cons pair rest ih =>
      obtain ⟨n, v⟩ := pair
      by_cases hn : n = name
      · subst hn
        by_cases ho : n = other <;> simp [upsert, ho]
      · rw [upsert, if_neg hn, List.find?_cons, List.find?_cons, ih]
        by_cases ho : name = other
        · subst ho
          simp [beq_eq_false_iff_ne.mpr hn]
        · simp [ho]

section
variable {α : Type} [ToBindValue α] (b : Bindings) (name : String) (value : α)

theorem names_bind :
    (b.bind name value).names = if name ∈ b.names then b.names else b.names ++ [name] :=
  map_fst_upsert name (toBindValue value) b.params

theorem get?_bind (other : String) :
    (b.bind name value).get? other =
      if name = other then some (toBindValue value) else b.get? other := by
  unfold get? bind
  rw [find?_upsert]
  split <;> rfl

end

/-- The names of the bindings and their lookup are those of a sequence. -/
structure Reflects (b : Bindings) (made : List Binding) : Prop where
  names_eq : b.names = (made.map (·.name)).eraseDups
  get?_eq : ∀ name, b.get? name = lastBound? made name

theorem Reflects.bind {b : Bindings} {made : List Binding} (h : b.Reflects made)
    (binding : Binding) :
    (b.bind binding.name binding.value).Reflects (made ++ [binding]) := by
  refine ⟨?_, ?_⟩
  · rw [names_bind, List.map_append, List.map_singleton, eraseDups_concat, h.names_eq]
    simp only [List.mem_eraseDups]
  · intro name
    rw [get?_bind, lastBound?_concat, h.get?_eq]
    rfl

theorem reflects_after (made : List Binding) : (after made).Reflects made := by
  induction made using List.reverseRecOn with
  | nil => exact ⟨rfl, fun _ => rfl⟩
  | append_singleton made binding ih =>
      rw [after, List.foldl_append]
      exact ih.bind binding

/-! ## The list of the pairs -/

section
variable {b : Bindings} {name : String} {value : BindValue}

theorem mem_toList_of_get? (h : b.get? name = some value) : (name, value) ∈ b.toList := by
  obtain ⟨⟨n, v⟩, hfind, rfl⟩ := Option.map_eq_some_iff.mp h
  have hn : n = name := by simpa using List.find?_some hfind
  subst hn
  exact List.mem_of_find?_eq_some hfind

/-- Of two pairs with one name, only the first could be looked up. -/
theorem get?_of_mem_toList (hnodup : b.names.Nodup) (h : (name, value) ∈ b.toList) :
    b.get? name = some value := by
  obtain ⟨params⟩ := b
  induction params with
  | nil => cases h
  | cons pair rest ih =>
      obtain ⟨hfirst, hrest⟩ := List.nodup_cons.mp hnodup
      rcases List.mem_cons.mp h with rfl | h
      · simp [get?]
      · have hne : pair.1 ≠ name := by
          rintro rfl
          exact hfirst (List.mem_map.mpr ⟨_, h, rfl⟩)
        have hlater : get? ⟨rest⟩ name = some value := ih hrest h
        rw [← hlater]
        simp [get?, hne]

/-- The names and the lookup give the pairs. -/
theorem toList_eq_map (hnodup : b.names.Nodup) :
    b.toList = b.names.map fun name => (name, (b.get? name).getD .null) := by
  rw [names, List.map_map]
  refine (List.map_id _).symm.trans (List.map_congr_left ?_)
  rintro ⟨name, value⟩ hmem
  simp [get?_of_mem_toList hnodup hmem]

end

/-! ## Every sequence -/

section
variable (made later : List Binding)

theorem names_after : (after made).names = (made.map (·.name)).eraseDups :=
  (reflects_after made).names_eq

theorem nodup_names_after : (after made).names.Nodup := by
  rw [names_after]
  exact nodup_eraseDups _

/-- Names that are bound later for the first time come behind the others. -/
theorem names_after_append :
    (after (made ++ later)).names =
      (after made).names ++ ((later.map (·.name)).removeAll (made.map (·.name))).eraseDups := by
  rw [names_after, names_after, List.map_append, List.eraseDups_append]

theorem size_after : (after made).size = (made.map (·.name)).toFinset.card := by
  rw [← length_names, ← List.toFinset_card_of_nodup (nodup_names_after made), names_after]
  congr 1
  ext name
  simp

/-- A parameter stays in its place, whatever is bound later. -/
theorem take_toList_after_append :
    (after (made ++ later)).toList.take (after made).size =
      (after made).toList.map (fun pair => (pair.1, (lastBound? later pair.1).getD pair.2)) := by
  rw [toList_eq_map (nodup_names_after (made ++ later)), toList_eq_map (nodup_names_after made),
    ← List.map_take, names_after_append, ← length_names, List.take_left, List.map_map]
  refine List.map_congr_left ?_
  intro name _
  simp only [Function.comp_apply]
  rw [(reflects_after (made ++ later)).get?_eq, (reflects_after made).get?_eq, lastBound?_append]
  cases lastBound? later name <;> rfl

/-- There are more parameters than before exactly if a name is new. -/
theorem size_after_append_eq_iff :
    (after (made ++ later)).size = (after made).size ↔
      later.map (·.name) ⊆ made.map (·.name) := by
  rw [← length_names, ← length_names, names_after_append, List.length_append, Nat.add_eq_left,
    List.length_eq_zero_iff, List.eq_nil_iff_forall_not_mem]
  simp [List.removeAll, List.subset_def]

end

/-- **An ordered map.**  After a sequence of bindings:

* the names are listed once each, in the order in which they were first bound;
* the value that is paired with a name is the one that was bound to it last, and
  lookup by name gives that one, and nothing under a name that was not bound;
* the values are listed in the order of the names, and there are as many as
  different names;
* whatever is bound later, each parameter stays in its place, with the value that
  was bound to its name last; and there are more of them exactly if a name is new. -/
theorem ordered_map (made later : List Binding) :
    ((after made).toList.map (·.1) = (made.map (·.name)).eraseDups ∧
      ((after made).toList.map (·.1)).Nodup) ∧
    (∀ name value, (name, value) ∈ (after made).toList ↔ lastBound? made name = some value) ∧
    (∀ name, (after made).get? name = lastBound? made name ∧
      ((after made).get? name = none ↔ name ∉ made.map (·.name))) ∧
    (after made).values = (after made).toList.map (·.2) ∧
    (after made).size = (made.map (·.name)).toFinset.card ∧
    (after (made ++ later)).toList.take (after made).size =
      (after made).toList.map (fun pair => (pair.1, (lastBound? later pair.1).getD pair.2)) ∧
    ((after (made ++ later)).size = (after made).size ↔
      later.map (·.name) ⊆ made.map (·.name)) := by
  have h := reflects_after made
  have hnodup := nodup_names_after made
  refine ⟨⟨h.names_eq, hnodup⟩, ?_, ?_, rfl, size_after made,
    take_toList_after_append made later, size_after_append_eq_iff made later⟩
  · intro name value
    rw [← h.get?_eq]
    exact ⟨get?_of_mem_toList hnodup, mem_toList_of_get?⟩
  · intro name
    rw [h.get?_eq]
    exact ⟨rfl, lastBound?_eq_none_iff⟩

/-- Binding a name again moves nothing. -/
example : (after [⟨"status", "active"⟩, ⟨"limit", (10 : Int)⟩, ⟨"status", "archived"⟩]).toList =
    [("status", .text "archived"), ("limit", .integer 10)] := rfl

end Bindings
end RowBridge
