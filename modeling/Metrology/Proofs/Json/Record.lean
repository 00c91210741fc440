import Mathlib.Data.List.Perm.Basic
import Metrology.Proofs.Json.Shown

/-!
Records in JSON: objects with one value under each of a few keys. The order of the members and other keys do
not matter, and the array of the values in the order of the keys is read alike.
-/

namespace Metrology.Json.Form

section

variable {α β : Type} {read : α → Option β} {items : List α}

theorem mapM_eq (read : α → Option β) (items : List α) :
    items.mapM read =
      if items.all fun item => (read item).isSome then some (items.filterMap read) else none := by
  induction items with
  | nil => rfl
  | cons item items ih =>
      rw [List.mapM_cons, ih, List.all_cons, List.filterMap_cons]
      cases read item with
      | none => rfl
      | some value =>
          rw [Option.isSome_some, Bool.true_and]
          split <;> rfl

theorem mapM_eq_none {item : α} (member : item ∈ items) (refused : read item = none) :
    items.mapM read = none := by
  rw [mapM_eq, if_neg]
  intro all
  have read := List.all_eq_true.mp all item member
  rw [refused] at read
  cases read

theorem mapM_congr {other : α → Option β} (same : ∀ item ∈ items, read item = other item) :
    items.mapM read = items.mapM other := by
  have present : (items.all fun item => (read item).isSome) = items.all fun item => (other item).isSome := by
    rw [Bool.eq_iff_iff, List.all_eq_true, List.all_eq_true]
    exact forall₂_congr fun item member => by rw [same item member]
  rw [mapM_eq, mapM_eq, present, List.filterMap_congr same]

theorem mapM_map {write : β → α} {values : List β}
    (restored : ∀ value ∈ values, read (write value) = some value) :
    (values.map write).mapM read = some values := by
  induction values with
  | nil => rfl
  | cons value values ih =>
      have here := restored value List.mem_cons_self
      have later := ih fun value member => restored value (List.mem_cons_of_mem _ member)
      rw [List.map_cons, List.mapM_cons, here, later]
      rfl

end

theorem keyed?_record (members : List (String × Json)) :
    keyed? (members.map fun member => (points member.1.toList, member.2)) = some members := by
  apply mapM_map
  intro member _
  rw [text?_points, Option.map_some, String.ofList_toList]

theorem field?_eq_some_iff {members : List (String × Json)} {key : String} {value : Json} :
    field? members key = some value ↔
      (members.filter fun member => member.1 == key).map Prod.snd = [value] := by
  unfold field?
  split
  · next single => simp [single]
  · next other =>
    refine iff_of_false (Option.some_ne_none _ ∘ Eq.symm) fun single => ?_
    obtain ⟨member, found, -⟩ := List.map_eq_singleton_iff.mp single
    exact other member.1 member.2 found

theorem field?_congr {first second : List (String × Json)} {key : String}
    (same : (first.filter fun member => member.1 == key).Perm (second.filter fun member => member.1 == key)) :
    field? first key = field? second key := by
  have values := same.map Prod.snd
  apply Option.ext
  intro value
  rw [field?_eq_some_iff, field?_eq_some_iff]
  constructor
  · intro single
    rw [single] at values
    exact List.perm_singleton.mp values.symm
  · intro single
    rw [single] at values
    exact List.perm_singleton.mp values

theorem filter_key_eq_nil {members : List (String × Json)} {key : String}
    (missing : ∀ member ∈ members, member.1 ≠ key) : (members.filter fun member => member.1 == key) = [] := by
  rw [List.filter_eq_nil_iff]
  intro member inside same
  exact missing member inside (eq_of_beq same)

theorem field?_eq_none {members : List (String × Json)} {key : String}
    (missing : ∀ member ∈ members, member.1 ≠ key) : field? members key = none := by
  rw [field?, filter_key_eq_nil missing]

theorem field?_cons_ne {member : String × Json} {members : List (String × Json)} {key : String}
    (other : member.1 ≠ key) : field? (member :: members) key = field? members key := by
  rw [field?, field?, List.filter_cons_of_neg (by simpa using other)]

theorem field?_cons_self {members : List (String × Json)} {key : String} {value : Json}
    (once : ∀ member ∈ members, member.1 ≠ key) : field? ((key, value) :: members) key = some value := by
  have only : ((key, value) :: members).filter (fun member => member.1 == key) = [(key, value)] := by
    rw [List.filter_cons, filter_key_eq_nil once]
    simp
  rw [field?, only]

theorem mapM_field?_zip {keys : List String} {values : List Json} (distinct : keys.Nodup)
    (length : values.length = keys.length) : keys.mapM (field? (keys.zip values)) = some values := by
  induction keys generalizing values with
  | nil =>
      rw [List.length_eq_zero_iff.mp length]
      rfl
  | cons key keys ih =>
      obtain ⟨value, values, rfl⟩ := List.exists_cons_of_length_eq_add_one length
      obtain ⟨fresh, distinct⟩ := List.nodup_cons.mp distinct
      have once : ∀ member ∈ keys.zip values, member.1 ≠ key := by
        rintro member inside rfl
        exact fresh (List.of_mem_zip inside).1
      have later : keys.mapM (field? ((key, value) :: keys.zip values)) = some values := by
        rw [← ih distinct (Nat.succ.inj length)]
        apply mapM_congr
        rintro other inside
        apply field?_cons_ne
        rintro rfl
        exact fresh inside
      rw [List.zip_cons_cons, List.mapM_cons, field?_cons_self once, later]
      rfl

/-- A member of an object that a record with given keys does not have. -/
def IsUnknown (keys : List String) (member : Points × Json) : Prop :=
  ∃ key, member.1.text? = some key ∧ key ∉ keys

variable {keys : List String} {members members' others : List (Points × Json)}

theorem fields?_object (keys : List String) (members : List (Points × Json)) :
    fields? keys (.object members) =
      if members.all fun member => member.1.text?.isSome then
        keys.mapM (field? (members.filterMap fun member => member.1.text?.map fun key => (key, member.2)))
      else none := by
  have keyed := mapM_eq (fun member : Points × Json => member.1.text?.map fun key => (key, member.2)) members
  simp only [Option.isSome_map] at keyed
  rw [fields?, keyed?, keyed]
  split <;> rfl

theorem fields?_perm_append (same : members'.Perm (members ++ others))
    (unknown : ∀ member ∈ others, IsUnknown keys member) :
    fields? keys (.object members') = fields? keys (.object members) := by
  have texts : (others.all fun member => member.1.text?.isSome) = true := by
    rw [List.all_eq_true]
    intro member inside
    obtain ⟨key, text, -⟩ := unknown member inside
    rw [text, Option.isSome_some]
  rw [fields?_object, fields?_object, same.all_eq, List.all_append, texts, Bool.and_true]
  split
  · apply mapM_congr
    intro key needed
    apply field?_congr
    have kept := (same.filterMap fun member => member.1.text?.map fun key => (key, member.2)).filter
      fun member => member.1 == key
    rw [List.filterMap_append, List.filter_append] at kept
    -- None of the other members is under the key.
    have missing : ∀ member ∈ others.filterMap fun member => member.1.text?.map fun key => (key, member.2),
        member.1 ≠ key := by
      rintro member inside rfl
      obtain ⟨other, within, keyed⟩ := List.mem_filterMap.mp inside
      obtain ⟨name, text, missing⟩ := unknown other within
      rw [text, Option.map_some] at keyed
      cases keyed
      exact missing needed
    rwa [filter_key_eq_nil missing, List.append_nil] at kept
  · rfl

theorem fields?_eq_none {key : String} (needed : key ∈ keys)
    (missing : ∀ member ∈ members, member.1.text? ≠ some key) : fields? keys (.object members) = none := by
  rw [fields?_object]
  split
  · apply mapM_eq_none needed
    apply field?_eq_none
    rintro member inside rfl
    obtain ⟨written, within, keyed⟩ := List.mem_filterMap.mp inside
    obtain ⟨name, text, rfl⟩ := Option.map_eq_some_iff.mp keyed
    exact missing written within text
  · rfl

theorem fields?_record (distinct : keys.Nodup) {values : List Json} (length : values.length = keys.length) :
    fields? keys (record (keys.zip values)) = some values := by
  have keyed : keyed? ((keys.zip values).map fun member => (member.1.toList.map Char.toNat, member.2)) =
      some (keys.zip values) := keyed?_record _
  rw [record, fields?, keyed]
  exact mapM_field?_zip distinct length

theorem fields?_array {values : List Json} (length : values.length = keys.length) :
    fields? keys (.array values) = some values := by
  rw [fields?, if_pos length]

variable {β : Type} {form : Form β}

/-- The form of a record with given keys. Just these are written, and what is read depends on their values
alone. -/
structure IsRecord (form : Form β) (keys : List String) : Prop where
  written : ∀ x, ∃ values : List Json,
    values.length = keys.length ∧ form.write x = record (keys.zip values)
  regardless : ∀ members members' others : List (Points × Json),
    (∀ member ∈ others, IsUnknown keys member) → members'.Perm (members ++ others) →
      form.read? (.object members') = form.read? (.object members)
  positional : ∀ values : List Json, values.length = keys.length →
    form.read? (record (keys.zip values)) = form.read? (.array values)
  complete : ∀ members : List (Points × Json), ∀ key ∈ keys,
    (∀ member ∈ members, member.1.text? ≠ some key) → form.read? (.object members) = none

theorem isRecord_of_fields (distinct : keys.Nodup)
    (written : ∀ x, ∃ values : List Json,
      values.length = keys.length ∧ form.write x = record (keys.zip values))
    (ofFields : List Json → Option β) (read : ∀ json, form.read? json = (fields? keys json).bind ofFields) :
    form.IsRecord keys where
  written := written
  regardless := by
    intro members members' others unknown same
    rw [read, read, fields?_perm_append same unknown]
  positional := by
    intro values length
    rw [read, read, fields?_record distinct length, fields?_array length]
  complete := by
    intro members key needed missing
    rw [read, fields?_eq_none needed missing]
    rfl

end Metrology.Json.Form
