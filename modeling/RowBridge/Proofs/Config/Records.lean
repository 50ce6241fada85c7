/-
# `RowBridge.Proofs.Config.Records` — what a reader makes of a record

A record is read from its parts: the fields of a table, or the items of a list
under the names of the record's fields in their order (`RecordForm.parts?`).  It
can be read exactly if every part that the record knows fits its place and every
field that it requires is among the parts; then each field has the value of its
part, or its value in the blank record (`RecordForm.Describes`).

What fits a place, and which value it stands for there, is said by a `Kind`
without any reader: `Kind.value?`.  A number is the same value whether it was
said in a place for signed numbers or for unsigned ones.
-/
import RowBridge.Config.Layers
import RowBridge.Proofs.Config.Sources

namespace RowBridge.Config

/-! ## Kinds of values -/

/-- What a place of a record is for. -/
inductive Kind
  | text
  /-- Whole numbers from zero on, below a limit. -/
  | whole (limit : Nat)
  | maybe (kind : Kind)

/-- The value that stands in a place of a kind if this is said there; none if it
does not fit. -/
def Kind.value? : Kind → Value → Option Value
  | .text, .text s => some (.text s)
  | .whole limit, .signed n => if 0 ≤ n ∧ n < limit then some (.unsigned n.toNat) else none
  | .whole limit, .unsigned n => if n < limit then some (.unsigned n) else none
  | .maybe _, .absent => some .absent
  | .maybe kind, v => kind.value? v
  | _, _ => none

/-- No table fits a place for a value. -/
def Kind.ofTree? (kind : Kind) : Tree → Option Value
  | .leaf _ v => kind.value? v
  | .branch _ _ => none

/-- A reader takes what fits a kind, for the value that stands there. -/
def Reader.Reads {β : Type} (read : Reader β) (kind : Kind) (encode : β → Value) : Prop :=
  ∀ path t, (read path t).toOption.map encode = kind.ofTree? t

theorem Reader.text_reads : Reader.text.Reads .text .text := by
  intro path t
  cases t with
  | leaf source v => cases v <;> rfl
  | branch source fields => rfl

theorem Reader.below_reads (limit : Nat) (name : String) :
    (Reader.below limit name).Reads (.whole limit) .unsigned := by
  intro path t
  cases t with
  | branch source fields => rfl
  | leaf source v =>
      cases v with
      | signed n =>
          simp only [below, Kind.ofTree?, Kind.value?]
          split <;> rfl
      | unsigned n =>
          simp only [below, Kind.ofTree?, Kind.value?]
          split <;> rfl
      | _ => rfl

theorem Reader.optional_reads {β : Type} {read : Reader β} {kind : Kind} {encode : β → Value}
    (h : read.Reads kind encode) :
    (Reader.optional read).Reads (.maybe kind) fun v => (v.map encode).getD .absent := by
  intro path t
  have hsome : ∀ t, ((read path t).map some).toOption.map
      (fun v => (v.map encode).getD .absent) = kind.ofTree? t := by
    intro t
    rw [← h path t]
    cases read path t <;> rfl
  cases t with
  | branch source fields => exact hsome _
  | leaf source v =>
      cases v with
      | absent => rfl
      | _ => exact hsome _

/-! ## Fields of a record -/

/-- A place in a record: what it is for, and the value that stands there if nothing
is said; none if something must be said. -/
structure Place where
  name : String
  kind : Kind
  unsaid : Option Value

/-- The value that stands in a place of a record that is read from these parts. -/
def Place.value? (place : Place) (parts : List (String × Tree)) : Option Value :=
  match parts.lookup place.name with
  | some t => place.kind.ofTree? t
  | none => place.unsaid

section
variable {α : Type}

/-- A field of a record fills a place: it takes what fits there, and writes the
value that stands for it into the record. -/
structure RecordField.Fills (field : RecordField α) (place : Place)
    (written : α → List (String × Value)) (blank : α) : Prop where
  name_eq : field.name = place.name
  takes : ∀ {path t set}, field.take path t = .ok set → ∃ v, place.kind.ofTree? t = some v ∧
    ∀ record, written (set record) = putField place.name v (written record)
  fits : ∀ {path t v}, place.kind.ofTree? t = some v → ∃ set, field.take path t = .ok set
  unsaid : if field.required then place.unsaid = none
    else ∃ v, place.unsaid = some v ∧ (written blank).lookup place.name = some v

theorem RecordField.fills_of_reads {β : Type} {read : Reader β} {kind : Kind}
    {encode : β → Value} {written : α → List (String × Value)} {name : String}
    {required : Bool} {set : β → α → α} {blank : α} {unsaid : Option Value}
    (hread : read.Reads kind encode)
    (hset : ∀ v record, written (set v record) = putField name (encode v) (written record))
    (hunsaid : if required then unsaid = none
      else ∃ v, unsaid = some v ∧ (written blank).lookup name = some v) :
    RecordField.Fills ⟨name, required, fun path t => (read path t).map set⟩
      ⟨name, kind, unsaid⟩ written blank where
  name_eq := rfl
  takes := by
    intro path t setter h
    obtain ⟨v, hvalue, rfl⟩ := exists_of_map_eq_ok h
    refine ⟨encode v, ?_, hset v⟩
    rw [← hread path t, hvalue]
    rfl
  fits := by
    intro path t v h
    rw [← hread path t] at h
    cases hvalue : read path t with
    | error fault => rw [hvalue] at h; cases h
    | ok u => exact ⟨set u, by simp only [hvalue]; rfl⟩
  unsaid := hunsaid

section
variable {β : Type} {read : Reader β} {kind : Kind} {encode : β → Value}
  {written : α → List (String × Value)} {name : String} {set : β → α → α} {blank : α}
  (hread : read.Reads kind encode)
  (hset : ∀ v record, written (set v record) = putField name (encode v) (written record))
include hread hset

theorem RecordField.mustHave_fills :
    (mustHave name read set).Fills ⟨name, kind, none⟩ written blank :=
  fills_of_reads hread hset rfl

theorem RecordField.mayHave_fills {v : Value} (hblank : (written blank).lookup name = some v) :
    (mayHave name read set).Fills ⟨name, kind, some v⟩ written blank :=
  fills_of_reads hread hset ⟨v, rfl, hblank⟩

end

/-- A field leaves alone what is seen of a record. -/
def RecordField.Leaves {γ : Type} (field : RecordField α) (get : α → γ) : Prop :=
  ∀ path t set, field.take path t = .ok set → ∀ record, get (set record) = get record

theorem RecordField.leaves_of_set {β γ : Type} {read : Reader β} {name : String}
    {required : Bool} {set : β → α → α} {get : α → γ}
    (h : ∀ v record, get (set v record) = get record) :
    RecordField.Leaves ⟨name, required, fun path t => (read path t).map set⟩ get := by
  intro path t setter htake record
  obtain ⟨v, -, rfl⟩ := exists_of_map_eq_ok htake
  exact h v record

/-! ## Taking one field after another -/

/-- What is taken for a field. -/
structure Taking (α : Type) where
  path : List String
  field : RecordField α
  tree : Tree

namespace Taking

def take (g : Taking α) : Except Fault (α → α) := g.field.take g.path g.tree

def name (g : Taking α) : String := g.field.name

def takeAll : List (Taking α) → α → Except Fault α
  | [], record => .ok record
  | g :: rest, record => g.take.bind fun set => takeAll rest (set record)

theorem exists_takeAll_iff {takings : List (Taking α)} (record : α) :
    (∃ record', takeAll takings record = .ok record') ↔
      ∀ g ∈ takings, ∃ set, g.take = .ok set := by
  induction takings generalizing record with
  | nil => exact iff_of_true ⟨record, rfl⟩ fun _ hmem => nomatch hmem
  | cons g rest ih =>
      rw [List.forall_mem_cons, takeAll]
      cases htake : g.take with
      | error fault => exact iff_of_false (fun ⟨_, h⟩ => nomatch h) fun ⟨⟨_, h⟩, _⟩ => nomatch h
      | ok set =>
          rw [and_iff_right ⟨set, rfl⟩]
          exact ih (set record)

/-- If one fails, and all that fail fail alike, so does the whole. -/
theorem takeAll_eq_error {takings : List (Taking α)} {fault : Fault} {g : Taking α}
    (hmem : g ∈ takings) (hfail : g.take = .error fault)
    (halike : ∀ g ∈ takings, ∀ fault', g.take = .error fault' → fault' = fault) (record : α) :
    takeAll takings record = .error fault := by
  induction takings generalizing record with
  | nil => cases hmem
  | cons g' rest ih =>
      obtain ⟨hhead, hrest⟩ := List.forall_mem_cons.mp halike
      rw [takeAll]
      cases htake : g'.take with
      | error fault' => exact congrArg Except.error (hhead fault' htake)
      | ok set =>
          rcases List.mem_cons.mp hmem with rfl | hin
          · rw [hfail] at htake
            cases htake
          · exact ih hin hrest (set record)

/-- What is seen of a record behind one of its fields (`get`) is left alone by the
other fields. -/
theorem takeAll_unseen {γ : Type} (get : α → γ) {takings : List (Taking α)}
    (hother : ∀ g ∈ takings, ∀ set, g.take = .ok set → ∀ record, get (set record) = get record)
    {record record' : α} (h : takeAll takings record = .ok record') :
    get record' = get record := by
  induction takings generalizing record with
  | nil =>
      cases h
      rfl
  | cons g rest ih =>
      obtain ⟨hhead, hrest⟩ := List.forall_mem_cons.mp hother
      obtain ⟨set, htake, hlater⟩ := exists_of_bind_eq_ok h
      rw [ih hrest hlater]
      exact hhead set htake record

/-- What is seen of a record behind a field that was taken is made by that field. -/
theorem takeAll_seen {γ : Type} (get : α → γ) {takings : List (Taking α)}
    (hnodup : (takings.map name).Nodup) {g : Taking α} (hmem : g ∈ takings)
    (hother : ∀ g' ∈ takings, g'.name ≠ g.name → ∀ set, g'.take = .ok set →
      ∀ record, get (set record) = get record)
    {record record' : α} (h : takeAll takings record = .ok record') :
    ∃ set before, g.take = .ok set ∧ get record' = get (set before) := by
  induction takings generalizing record with
  | nil => cases hmem
  | cons g' rest ih =>
      obtain ⟨hnotin, hrestnodup⟩ := List.nodup_cons.mp hnodup
      obtain ⟨hhead, hrest⟩ := List.forall_mem_cons.mp hother
      obtain ⟨set, htake, hlater⟩ := exists_of_bind_eq_ok h
      rcases List.mem_cons.mp hmem with rfl | hin
      · refine ⟨set, record, htake, takeAll_unseen get (fun g' hg' => hrest g' hg' ?_) hlater⟩
        exact fun heq => hnotin (heq ▸ List.mem_map_of_mem hg')
      · exact ih hrestnodup hin hrest hlater

end Taking

namespace RecordForm

open Taking

variable {form : RecordForm α} {path : List String}

def names (form : RecordForm α) : List String := form.fields.map (·.name)

/-- The parts that a record is read from. -/
def parts? (form : RecordForm α) : Tree → Option (List (String × Tree))
  | .branch _ fields => some fields
  | .leaf source (.list items) => some (form.names.zip (items.map (.ofValue source)))
  | .leaf _ _ => none

/-! ## Tables and lists -/

def fieldTakings (form : RecordForm α) (path : List String) :
    List (String × Tree) → List (Taking α)
  | [] => []
  | (name, t) :: rest =>
      match form.fields.find? (·.name == name) with
      | none => form.fieldTakings path rest
      | some field => ⟨path ++ [name], field, t⟩ :: form.fieldTakings path rest

theorem takeFields_eq (parts : List (String × Tree)) (record : α) :
    form.takeFields path parts record = takeAll (form.fieldTakings path parts) record := by
  induction parts generalizing record with
  | nil => rfl
  | cons part rest ih =>
      obtain ⟨name, t⟩ := part
      rw [takeFields, fieldTakings]
      cases form.fields.find? (·.name == name) with
      | none => exact ih record
      | some field =>
          simp only [takeAll, ih]
          rfl

def itemTakings (path : List String) (source : Source) : Nat → List (RecordField α) →
    List Value → List (Taking α)
  | index, field :: fields, item :: items =>
      ⟨path ++ [toString index], field, .ofValue source item⟩ ::
        itemTakings path source (index + 1) fields items
  | _, _, _ => []

/-- A list is taken if its items are, and no field behind its end must be there. -/
theorem takeItems_eq_ok_iff {source : Source} {index : Nat} {fields : List (RecordField α)}
    {items : List Value} {record record' : α} :
    form.takeItems path source index fields items record = .ok record' ↔
      takeAll (itemTakings path source index fields items) record = .ok record' ∧
        ∀ field ∈ fields.drop items.length, field.required = false := by
  induction fields generalizing index items record with
  | nil =>
      rw [takeItems, List.drop_nil, itemTakings]
      · exact (and_iff_left fun _ hmem => nomatch hmem).symm
      · exact fun _ _ _ _ h => nomatch h
  | cons field fields ih =>
      cases items with
      | nil =>
          rw [takeItems, List.length_nil, List.drop_zero, List.forall_mem_cons]
          cases hrequired : field.required with
          | true => exact iff_of_false (fun h => nomatch h) fun ⟨_, h, _⟩ => nomatch h
          | false =>
              have hrest : form.takeItems path source (index + 1) fields [] record = .ok record' ↔
                  takeAll (itemTakings path source (index + 1) fields []) record = .ok record' ∧
                    ∀ field ∈ fields.drop ([] : List Value).length, field.required = false := ih
              rw [List.length_nil, List.drop_zero] at hrest
              have hnone : itemTakings path source (index + 1) fields [] =
                  itemTakings path source index (field :: fields) [] := by
                cases fields <;> rfl
              rw [if_neg Bool.false_ne_true, hrest, hnone, and_iff_right rfl]
      | cons item items =>
          rw [takeItems, itemTakings, takeAll, List.length_cons, List.drop_succ_cons]
          cases htake : field.take (path ++ [toString index]) (.ofValue source item) with
          | error fault =>
              rw [take, htake]
              exact iff_of_false (fun h => nomatch h) fun ⟨h, _⟩ => nomatch h
          | ok set =>
              rw [take, htake]
              exact ih

/-! ## What is taken of the parts -/

/-- What is taken is, for each field that is among the parts, its part. -/
structure Covers (form : RecordForm α) (parts : List (String × Tree))
    (takings : List (Taking α)) : Prop where
  nodup : (takings.map Taking.name).Nodup
  sound : ∀ g ∈ takings, g.field ∈ form.fields ∧ parts.lookup g.name = some g.tree
  complete : ∀ field ∈ form.fields, ∀ t, parts.lookup field.name = some t →
    ∃ g ∈ takings, g.field = field ∧ g.tree = t

theorem find?_name (hnodup : form.names.Nodup) {field : RecordField α}
    (hmem : field ∈ form.fields) : form.fields.find? (·.name == field.name) = some field := by
  obtain ⟨before, after, hfields⟩ := List.append_of_mem hmem
  rw [names, hfields, List.map_append, List.map_cons] at hnodup
  have hbefore : field.name ∉ before.map (·.name) := fun hin =>
    (List.nodup_append.mp hnodup).2.2 _ hin _ List.mem_cons_self rfl
  refine List.find?_eq_some_iff_append.mpr ⟨beq_self_eq_true _, before, after, hfields, ?_⟩
  intro other hother
  have hne : other.name ≠ field.name := fun heq => hbefore (heq ▸ List.mem_map_of_mem hother)
  simpa using hne

theorem mem_fieldTakings {parts : List (String × Tree)} {g : Taking α} :
    g ∈ form.fieldTakings path parts ↔ (g.name, g.tree) ∈ parts ∧ g.path = path ++ [g.name] ∧
      form.fields.find? (·.name == g.name) = some g.field := by
  induction parts with
  | nil => exact iff_of_false (fun h => nomatch h) fun ⟨h, _⟩ => nomatch h
  | cons part rest ih =>
      obtain ⟨name, t⟩ := part
      rw [fieldTakings]
      cases hfind : form.fields.find? (·.name == name) with
      | none =>
          simp only [List.mem_cons]
          rw [ih]
          refine and_congr_left fun ⟨_, hfound⟩ => ⟨.inr, fun h => h.resolve_left fun heq => ?_⟩
          rw [(Prod.mk.inj heq).1, hfind] at hfound
          cases hfound
      | some field =>
          have hname : field.name = name := beq_iff_eq.mp (List.find?_some hfind :)
          simp only [List.mem_cons]
          rw [ih, or_and_right]
          refine or_congr_left ⟨?_, ?_⟩
          · rintro rfl
            refine ⟨congrArg (·, t) hname, by rw [Taking.name, hname], ?_⟩
            rw [Taking.name, hname]
            exact hfind
          · obtain ⟨place, field', t'⟩ := g
            rintro ⟨hpart, hpath, hfound⟩
            obtain ⟨hname', rfl⟩ := Prod.mk.inj hpart
            simp only at hname' hpath hfound
            rw [hname', hfind] at hfound
            cases hfound
            rw [hpath, hname']

/-- What is taken of the fields of a table. -/
theorem covers_fieldTakings (hnodup : form.names.Nodup) {parts : List (String × Tree)}
    (hparts : Ascending parts) : form.Covers parts (form.fieldTakings path parts) where
  nodup := by
    induction parts with
    | nil => exact List.nodup_nil
    | cons part rest ih =>
        obtain ⟨name, t⟩ := part
        rw [fieldTakings]
        cases hfind : form.fields.find? (·.name == name) with
        | none => exact ih hparts.tail
        | some field =>
            have hname : field.name = name := beq_iff_eq.mp (List.find?_some hfind :)
            refine List.nodup_cons.mpr ⟨fun hin => ?_, ih hparts.tail⟩
            obtain ⟨g, hg, heq⟩ := List.mem_map.mp hin
            have hlt : name < g.name := hparts.head_lt _ (mem_fieldTakings.mp hg).1
            rw [heq, Taking.name, hname] at hlt
            exact String.lt_irrefl _ hlt
  sound g hg := by
    obtain ⟨hpart, -, hfind⟩ := mem_fieldTakings.mp hg
    exact ⟨List.mem_of_find?_eq_some hfind, hparts.lookup_of_mem hpart⟩
  complete field hfield t hlookup :=
    ⟨⟨path ++ [field.name], field, t⟩,
      mem_fieldTakings.mpr ⟨mem_of_lookup hlookup, rfl, find?_name hnodup hfield⟩, rfl, rfl⟩

section
variable {source : Source} {index : Nat} {fields : List (RecordField α)} {items : List Value}

theorem names_itemTakings :
    List.Sublist ((itemTakings path source index fields items).map Taking.name)
      (fields.map (·.name)) := by
  induction fields generalizing index items with
  | nil => exact List.nil_sublist _
  | cons field fields ih =>
      cases items with
      | nil => exact List.nil_sublist _
      | cons item items => exact ih.cons_cons field.name

theorem lookup_of_mem_itemTakings (hnodup : (fields.map (·.name)).Nodup) {g : Taking α}
    (hg : g ∈ itemTakings path source index fields items) : g.field ∈ fields ∧
      ((fields.map (·.name)).zip (items.map (.ofValue source))).lookup g.name = some g.tree := by
  induction fields generalizing index items with
  | nil => cases hg
  | cons field fields ih =>
      obtain ⟨hnotin, hrest⟩ := List.nodup_cons.mp hnodup
      cases items with
      | nil => cases hg
      | cons item items =>
          rcases List.mem_cons.mp hg with rfl | hlater
          · exact ⟨List.mem_cons_self, List.lookup_cons_self⟩
          · obtain ⟨hfield, hlookup⟩ := ih hrest hlater
            have hne : g.name ≠ field.name := fun heq =>
              hnotin (List.mem_map.mpr ⟨_, hfield, heq⟩)
            exact ⟨List.mem_cons_of_mem _ hfield, (lookup_cons_of_ne _ _ hne).trans hlookup⟩

theorem mem_itemTakings_of_lookup (hnodup : (fields.map (·.name)).Nodup)
    {field : RecordField α} (hfield : field ∈ fields) {t : Tree}
    (hlookup : ((fields.map (·.name)).zip (items.map (.ofValue source))).lookup field.name =
      some t) : ∃ g ∈ itemTakings path source index fields items, g.field = field ∧ g.tree = t := by
  induction fields generalizing index items with
  | nil => cases hfield
  | cons field' fields ih =>
      obtain ⟨hnotin, hrest⟩ := List.nodup_cons.mp hnodup
      cases items with
      | nil => cases hlookup
      | cons item items =>
          rcases List.mem_cons.mp hfield with rfl | hlater
          · refine ⟨_, List.mem_cons_self, rfl, ?_⟩
            exact Option.some.inj (List.lookup_cons_self.symm.trans hlookup)
          · have hne : field.name ≠ field'.name := fun heq =>
              hnotin (List.mem_map.mpr ⟨_, hlater, heq⟩)
            obtain ⟨g, hg, hmade⟩ : ∃ g ∈ itemTakings path source (index + 1) fields items,
                g.field = field ∧ g.tree = t :=
              ih hrest hlater ((lookup_cons_of_ne _ _ hne).symm.trans hlookup)
            exact ⟨g, List.mem_cons_of_mem _ hg, hmade⟩

theorem lookup_items_eq_none_iff (hnodup : (fields.map (·.name)).Nodup)
    {field : RecordField α} (hfield : field ∈ fields) :
    ((fields.map (·.name)).zip (items.map (Tree.ofValue source))).lookup field.name = none ↔
      field ∈ fields.drop items.length := by
  induction fields generalizing items with
  | nil => cases hfield
  | cons field' fields ih =>
      obtain ⟨hnotin, hrest⟩ := List.nodup_cons.mp hnodup
      cases items with
      | nil => exact iff_of_true rfl hfield
      | cons item items =>
          rw [List.length_cons, List.drop_succ_cons, List.map_cons, List.map_cons,
            List.zip_cons_cons]
          rcases List.mem_cons.mp hfield with rfl | hlater
          · rw [List.lookup_cons_self]
            refine iff_of_false (fun h => nomatch h) fun hin => hnotin ?_
            exact List.mem_map_of_mem (List.mem_of_mem_drop hin)
          · have hne : field.name ≠ field'.name := fun heq =>
              hnotin (List.mem_map.mpr ⟨_, hlater, heq⟩)
            rw [lookup_cons_of_ne _ _ hne]
            exact ih hrest hlater

end

/-- What is taken of the items of a list. -/
theorem covers_itemTakings (hnodup : form.names.Nodup) (source : Source) (index : Nat)
    (items : List Value) : form.Covers (form.names.zip (items.map (.ofValue source)))
      (itemTakings path source index form.fields items) where
  nodup := names_itemTakings.nodup hnodup
  sound _ hg := lookup_of_mem_itemTakings hnodup hg
  complete _ hfield _ hlookup := mem_itemTakings_of_lookup hnodup hfield hlookup

/-- Every field that must be there is among the parts. -/
def Complete (form : RecordForm α) (parts : List (String × Tree)) : Prop :=
  ∀ field ∈ form.fields, field.required = true → (parts.lookup field.name).isSome

theorem any_name_eq (parts : List (String × Tree)) (name : String) :
    parts.any (·.1 == name) = (parts.lookup name).isSome := by
  induction parts with
  | nil => rfl
  | cons part rest ih =>
      by_cases heq : name = part.1
      · rw [heq, List.lookup_cons_self, List.any_cons, beq_self_eq_true]
        rfl
      · rw [lookup_cons_of_ne _ _ heq, List.any_cons, beq_false_of_ne (Ne.symm heq), ih]
        rfl

theorem missing?_eq_none_iff {parts : List (String × Tree)} :
    form.missing? parts = none ↔ form.Complete parts := by
  rw [missing?, Option.map_eq_none_iff, List.find?_eq_none]
  refine forall_congr' fun field => imp_congr_right fun _ => ?_
  rw [any_name_eq]
  cases field.required <;> cases (parts.lookup field.name).isSome <;> decide

theorem complete_items_iff (hnodup : form.names.Nodup) {source : Source} {items : List Value} :
    form.Complete (form.names.zip (items.map (.ofValue source))) ↔
      ∀ field ∈ form.fields.drop items.length, field.required = false := by
  constructor
  · intro h field hin
    have hfield : field ∈ form.fields := List.mem_of_mem_drop hin
    have hnone : ((form.fields.map (·.name)).zip
        (items.map (Tree.ofValue source))).lookup field.name = none :=
      (lookup_items_eq_none_iff hnodup hfield).mpr hin
    refine Bool.eq_false_iff.mpr fun hrequired => ?_
    have hsome := h field hfield hrequired
    rw [names, hnone] at hsome
    cases hsome
  · intro h field hfield hrequired
    refine Option.isSome_iff_ne_none.mpr fun hnone => ?_
    have hin := (lookup_items_eq_none_iff hnodup hfield).mp hnone
    rw [h field hin] at hrequired
    cases hrequired

/-- A table is read if its fields are taken, and none that must be there is missing. -/
theorem read_table_eq_ok_iff {source : Source} {parts : List (String × Tree)} {record : α} :
    form.read path (.branch source parts) = .ok record ↔
      takeAll (form.fieldTakings path parts) form.blank = .ok record ∧ form.Complete parts := by
  rw [read, takeTable, takeFields_eq, ← missing?_eq_none_iff]
  cases takeAll (form.fieldTakings path parts) form.blank with
  | error fault => exact iff_of_false (fun h => nomatch h) fun ⟨h, _⟩ => nomatch h
  | ok record' =>
      simp only [Except.bind]
      cases form.missing? parts with
      | none => exact (and_iff_left rfl).symm
      | some name => exact iff_of_false (fun h => nomatch h) fun ⟨_, h⟩ => nomatch h

/-- A record is read from its parts: it takes what covers them, and misses none that
must be there. -/
theorem exists_takings (path : List String) {t : Tree} (hnodup : form.names.Nodup) (ht : t.Ordered)
    {parts : List (String × Tree)} (hparts : form.parts? t = some parts) :
    ∃ takings, form.Covers parts takings ∧ ∀ record, form.read path t = .ok record ↔
      takeAll takings form.blank = .ok record ∧ form.Complete parts := by
  cases ht with
  | branch hascending hordered =>
      cases hparts
      exact ⟨form.fieldTakings path parts, covers_fieldTakings hnodup hascending,
        fun _ => read_table_eq_ok_iff⟩
  | leaf source value =>
      cases value with
      | list items =>
          cases hparts
          refine ⟨itemTakings path source 0 form.fields items,
            covers_itemTakings hnodup source 0 items, fun record => ?_⟩
          rw [read, takeItems_eq_ok_iff, complete_items_iff hnodup]
      | _ => cases hparts

theorem read_eq_error {t : Tree} (h : form.parts? t = none) :
    form.read path t = .error (Reader.mismatch form.expected path t) := by
  cases t with
  | branch source fields => cases h
  | leaf source value =>
      cases value with
      | list items => cases h
      | _ => rfl

/-- What is seen of a record that was read from a table, behind a field of its own. -/
theorem takeAll_fieldTakings_seen {β : Type} {read : Reader β} {name : String} {required : Bool}
    {set : β → α → α} (get : α → β) (hnodup : form.names.Nodup)
    (hfield : ⟨name, required, fun path t => (read path t).map set⟩ ∈ form.fields)
    (hself : ∀ v record, get (set v record) = v)
    (hothers : ∀ field ∈ form.fields, field.name ≠ name → field.Leaves get)
    {parts : List (String × Tree)} (hparts : Ascending parts) {record : α}
    (h : takeAll (form.fieldTakings path parts) form.blank = .ok record) :
    match parts.lookup name with
    | some t => read (path ++ [name]) t = .ok (get record)
    | none => get record = get form.blank := by
  have hcovers : form.Covers parts (form.fieldTakings path parts) :=
    covers_fieldTakings hnodup hparts
  cases hlookup : parts.lookup name with
  | some t =>
      have hg : ⟨path ++ [name], ⟨name, required, fun path t => (read path t).map set⟩, t⟩ ∈
          form.fieldTakings path parts :=
        mem_fieldTakings.mpr ⟨mem_of_lookup hlookup, rfl, find?_name hnodup hfield⟩
      obtain ⟨setter, before, htake, hseen⟩ := takeAll_seen get hcovers.nodup hg
        (fun g' hg' hne set' => hothers _ (hcovers.sound g' hg').1 hne _ _ set') h
      obtain ⟨v, hread, rfl⟩ := exists_of_map_eq_ok htake
      rw [hseen, hself]
      exact hread
  | none =>
      refine takeAll_unseen get (fun g hg set' => ?_) h
      obtain ⟨hmem, hpart⟩ := hcovers.sound g hg
      refine hothers _ hmem (fun heq => ?_) _ _ set'
      rw [Taking.name, heq, hlookup] at hpart
      cases hpart

/-! ## What is read -/

/-- The places of a record in their order, and how the values in it are written. -/
structure Describes (form : RecordForm α) (places : List Place)
    (written : α → List (String × Value)) : Prop where
  nodup : form.names.Nodup
  length_eq : form.fields.length = places.length
  fills : ∀ p ∈ form.fields.zip places, p.1.Fills p.2 written form.blank
  faithful : ∀ record record', (∀ place ∈ places,
    (written record).lookup place.name = (written record').lookup place.name) → record = record'

namespace Describes

variable {places : List Place} {written : α → List (String × Value)}
  (h : form.Describes places written)
include h

theorem exists_place {field : RecordField α} (hfield : field ∈ form.fields) :
    ∃ place ∈ places, field.Fills place written form.blank := by
  rw [← List.map_fst_zip (Nat.le_of_eq h.length_eq)] at hfield
  obtain ⟨⟨field, place⟩, hpair, rfl⟩ := List.mem_map.mp hfield
  exact ⟨place, (List.of_mem_zip hpair).2, h.fills _ hpair⟩

theorem exists_field {place : Place} (hplace : place ∈ places) :
    ∃ field ∈ form.fields, field.Fills place written form.blank := by
  rw [← List.map_snd_zip (Nat.le_of_eq h.length_eq.symm)] at hplace
  obtain ⟨⟨field, place⟩, hpair, rfl⟩ := List.mem_map.mp hplace
  exact ⟨field, (List.of_mem_zip hpair).1, h.fills _ hpair⟩

/-- A field leaves the places of the others alone. -/
theorem lookup_of_take {parts : List (String × Tree)} {takings : List (Taking α)}
    (hcovers : form.Covers parts takings) {g : Taking α} (hg : g ∈ takings) {name : String}
    (hne : g.name ≠ name) {set : α → α} (hset : g.take = .ok set) (record : α) :
    (written (set record)).lookup name = (written record).lookup name := by
  obtain ⟨place, -, hfills⟩ := h.exists_place (hcovers.sound g hg).1
  obtain ⟨v, -, hwritten⟩ := hfills.takes hset
  rw [hwritten record]
  exact lookup_putField_of_ne (fun heq => hne (hfills.name_eq.trans heq.symm)) v _

theorem lookup_of_takeAll {parts : List (String × Tree)} {takings : List (Taking α)}
    (hcovers : form.Covers parts takings) (hcomplete : form.Complete parts) {record : α}
    (htaken : takeAll takings form.blank = .ok record) {place : Place} (hplace : place ∈ places) :
    ∃ v, place.value? parts = some v ∧ (written record).lookup place.name = some v := by
  obtain ⟨field, hfield, hfills⟩ := h.exists_field hplace
  rw [Place.value?]
  cases hlookup : parts.lookup place.name with
  | some t =>
      obtain ⟨g, hg, rfl, rfl⟩ :=
        hcovers.complete field hfield t (hfills.name_eq ▸ hlookup)
      obtain ⟨set, before, hset, hseen⟩ := takeAll_seen
        (fun record => (written record).lookup place.name) hcovers.nodup hg
        (fun g' hg' hne _ hset _ =>
          h.lookup_of_take hcovers hg' (fun heq => hne (heq.trans hfills.name_eq.symm)) hset _)
        htaken
      obtain ⟨v, hfit, hwritten⟩ := hfills.takes hset
      refine ⟨v, hfit, hseen.trans ?_⟩
      rw [hwritten before]
      exact lookup_putField_self _ _ _
  | none =>
      have hunsaid := hfills.unsaid
      cases hrequired : field.required with
      | true =>
          have hsome := hcomplete field hfield hrequired
          rw [hfills.name_eq, hlookup] at hsome
          cases hsome
      | false =>
          rw [hrequired, if_neg Bool.false_ne_true] at hunsaid
          obtain ⟨v, hv, hblank⟩ := hunsaid
          refine ⟨v, hv, Eq.trans ?_ hblank⟩
          refine takeAll_unseen (fun record => (written record).lookup place.name)
            (fun g hg _ hset _ => h.lookup_of_take hcovers hg (fun heq => ?_) hset _) htaken
          have hpart := (hcovers.sound g hg).2
          rw [heq, hlookup] at hpart
          cases hpart

section
variable {t : Tree} (ht : t.Ordered) {record : α}
include ht

theorem lookup_of_read (hread : form.read path t = .ok record) :
    ∃ parts, form.parts? t = some parts ∧ ∀ place ∈ places, ∃ v,
      place.value? parts = some v ∧ (written record).lookup place.name = some v := by
  cases hparts : form.parts? t with
  | none =>
      rw [read_eq_error hparts] at hread
      cases hread
  | some parts =>
      obtain ⟨takings, hcovers, htakes⟩ := exists_takings path h.nodup ht hparts
      obtain ⟨htaken, hcomplete⟩ := (htakes record).mp hread
      exact ⟨parts, rfl, fun _ hplace => h.lookup_of_takeAll hcovers hcomplete htaken hplace⟩

theorem exists_read (path : List String) {parts : List (String × Tree)}
    (hparts : form.parts? t = some parts)
    (hvalues : ∀ place ∈ places, ∃ v, place.value? parts = some v) :
    ∃ record, form.read path t = .ok record := by
  obtain ⟨takings, hcovers, htakes⟩ := exists_takings path h.nodup ht hparts
  have hall : ∀ g ∈ takings, ∃ set, g.take = .ok set := by
    intro g hg
    obtain ⟨hfield, hpart⟩ := hcovers.sound g hg
    obtain ⟨place, hplace, hfills⟩ := h.exists_place hfield
    obtain ⟨v, hv⟩ := hvalues place hplace
    rw [Taking.name, hfills.name_eq] at hpart
    rw [Place.value?, hpart] at hv
    exact hfills.fits hv
  have hcomplete : form.Complete parts := by
    intro field hfield hrequired
    obtain ⟨place, hplace, hfills⟩ := h.exists_place hfield
    obtain ⟨v, hv⟩ := hvalues place hplace
    have hunsaid := hfills.unsaid
    rw [if_pos hrequired] at hunsaid
    refine Option.isSome_iff_ne_none.mpr fun hnone => ?_
    rw [Place.value?, ← hfills.name_eq, hnone] at hv
    exact nomatch hunsaid.symm.trans hv
  obtain ⟨record, htaken⟩ := (exists_takeAll_iff form.blank).mpr hall
  exact ⟨record, (htakes record).mpr ⟨htaken, hcomplete⟩⟩

/-- A record is read exactly if a value stands in each of its places; that value it
has there. -/
theorem read_eq_ok_iff :
    form.read path t = .ok record ↔ ∃ parts, form.parts? t = some parts ∧
      ∀ place ∈ places, ∃ v, place.value? parts = some v ∧
        (written record).lookup place.name = some v := by
  refine ⟨h.lookup_of_read ht, ?_⟩
  rintro ⟨parts, hparts, hvalues⟩
  obtain ⟨record', hread⟩ := h.exists_read ht path hparts fun place hplace =>
    (hvalues place hplace).imp fun _ hv => hv.1
  obtain ⟨parts', hparts', hvalues'⟩ := h.lookup_of_read ht hread
  obtain rfl := Option.some.inj (hparts.symm.trans hparts')
  obtain rfl : record' = record := h.faithful _ _ fun place hplace => by
    obtain ⟨v, hv, hwritten⟩ := hvalues place hplace
    obtain ⟨v', hv', hwritten'⟩ := hvalues' place hplace
    rw [hwritten, hwritten', Option.some.inj (hv.symm.trans hv')]
  exact hread

end

end Describes

end RecordForm
end
end RowBridge.Config
