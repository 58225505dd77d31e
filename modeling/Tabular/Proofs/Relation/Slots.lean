/-
# Grouping in one pass

`grouped` takes the values of all rows first, and then puts the rows with equal values together.
Rows can also be put into their groups as they come: every group has a slot, and an index leads
from a text form of the values to it (`Slots`).

* `Indexes`: what slots and index hold when some rows have come; a row more keeps it
  (`Indexes.add`), and so does a run of rows (`Slots.gather_spec`);
* `Slots.grouped_eq_keyed`: so one pass groups the rows by the text form of their values;
* **`Slots.grouped_eq_grouped`**: on rows as tables hold them this is what `grouped` does, since
  no two values of a table have one text form (`Value.key_inj`).
-/
import Tabular.Proofs.Relation.Distinct
import Tabular.Proofs.Relation.Reading
import Tabular.Proofs.Row

namespace Tabular

/-! ## 1. Values of tables -/

namespace Value

/-- A value that a table can hold: a number arises as an aggregate only. -/
def IsStored : Value → Prop
  | .number _ => False
  | _ => True

instance : DecidablePred IsStored
  | .null => .isTrue trivial
  | .number _ => .isFalse id
  | .text _ => .isTrue trivial

/-- **Text forms tell the values of tables apart**, null from every text included. -/
theorem key_inj {v w : Value} (hv : v.IsStored) (hw : w.IsStored) : v.key = w.key ↔ v = w := by
  refine ⟨fun h => ?_, fun h => h ▸ rfl⟩
  cases v with
  | number x => exact absurd hv id
  | null =>
    cases w with
    | number x => exact absurd hw id
    | null => rfl
    | text t => simp [key, ← String.toList_inj] at h
  | text s =>
    cases w with
    | number x => exact absurd hw id
    | null => simp [key, ← String.toList_inj] at h
    | text t => simpa [key, ← String.toList_inj] using h

theorem map_key_inj {vs ws : List Value} (hvs : ∀ v ∈ vs, v.IsStored)
    (hws : ∀ w ∈ ws, w.IsStored) : vs.map key = ws.map key ↔ vs = ws := by
  induction vs generalizing ws with
  | nil => simp [eq_comm]
  | cons v vs ih =>
    cases ws with
    | nil => simp
    | cons w ws =>
      rw [List.map_cons, List.map_cons, List.cons_eq_cons, List.cons_eq_cons,
        key_inj (hvs v List.mem_cons_self) (hws w List.mem_cons_self),
        ih (fun v hv => hvs v (List.mem_cons_of_mem _ hv))
          (fun w hw => hws w (List.mem_cons_of_mem _ hw))]

end Value

/-- A row as a table holds it. -/
def Row.IsStored (row : Row) : Prop := ∀ cell ∈ row.cells, cell.2.IsStored

instance : DecidablePred Row.IsStored := fun row =>
  inferInstanceAs (Decidable (∀ cell ∈ row.cells, cell.2.IsStored))

theorem Row.IsStored.of_get? {row : Row} (h : row.IsStored) {column : String} {v : Value}
    (hv : row.get? column = some v) : v.IsStored :=
  h (column, v) (Entries.mem_of_get?_eq_some hv)

theorem Row.IsStored.of_resolve? {row : Row} (h : row.IsStored) {reference primary : String}
    {v : Value} (hv : row.resolve? reference primary = some v) : v.IsStored := by
  unfold Row.resolve? at hv
  split at hv
  · rename_i w hw
    exact Option.some.inj hv ▸ h.of_get? hw
  · split at hv
    · split at hv
      · exact h.of_get? hv
      · simp at hv
    · simp at hv

namespace Relation

/-! ## 2. Groups of more things -/

section Append

variable {α κ : Type} [DecidableEq κ] {key : α → κ} {l : List α} {a : α}

/-- A thing of a kind that was met goes to its group. -/
theorem groups_snoc_of_mem (h : key a ∈ l.map key) : groups key (l ++ [a]) =
    (groups key l).map fun group =>
      if key group.1 = key a then (group.1, group.2 ++ [a]) else group := by
  have hfirsts : firsts key (l ++ [a]) = firsts key l := by
    rw [firsts_append, List.filter_eq_nil_iff.mpr, List.append_nil]
    intro b hb
    have hba : b = a := by simpa [firsts] using hb
    simpa [hba] using h
  rw [groups, groups, hfirsts, List.map_map]
  refine List.map_congr_left fun b _ => ?_
  by_cases hb : key b = key a
  · simp [classOf, List.filter_append, hb]
  · have hb' : key a ≠ key b := fun e => hb e.symm
    simp [classOf, List.filter_append, hb, hb']

/-- A thing of a new kind makes a group. -/
theorem groups_snoc_of_notMem (h : key a ∉ l.map key) :
    groups key (l ++ [a]) = groups key l ++ [(a, [a])] := by
  have hne : ∀ b ∈ l, key b ≠ key a := fun b hb hba => h (hba ▸ List.mem_map_of_mem hb)
  have hfirsts : firsts key (l ++ [a]) = firsts key l ++ [a] := by
    rw [firsts_append]
    congr 1
    exact List.filter_eq_self.mpr fun b hb => by simpa [(show b = a by simpa [firsts] using hb)]
      using h
  have hown : classOf key (l ++ [a]) a = [a] := by
    rw [classOf, List.filter_append, List.filter_eq_nil_iff.mpr fun b hb => by simp [hne b hb]]
    simp
  rw [groups, groups, hfirsts, List.map_append, List.map_singleton, hown]
  congr 1
  refine List.map_congr_left fun b hb => ?_
  have hba : key a ≠ key b := (hne b ((firsts_sublist key l).subset hb)).symm
  simp [classOf, List.filter_append, hba]

/-- Kinds that agree on the things make the same groups of them. -/
theorem groups_congr {κ' : Type} [DecidableEq κ'] {key' : α → κ'}
    (h : ∀ a ∈ l, ∀ b ∈ l, key a = key b ↔ key' a = key' b) : groups key l = groups key' l := by
  rw [groups, groups, firsts_congr h]
  refine List.map_congr_left fun a ha => ?_
  have hal := (firsts_sublist key' l).subset ha
  rw [classOf, classOf, List.filter_congr fun b hb => decide_eq_decide.mpr (h b hb a hal)]

end Append

/-! ## 3. Slots and their index -/

/-- Groups as they come up: for each the values of its first row, and its rows; and where the
group with a text form is among them. -/
structure Slots where
  index : List (List String × Nat)
  groups : List (List Value × List Row)

/-- The text form of the values of a row. -/
def groupKey (values : List Value) : List String := values.map Value.key

namespace Slots

/-- Puts a row with its values into its group, or else into a new one. -/
def add (slots : Slots) (values : List Value) (row : Row) : Slots :=
  match slots.index.lookup (groupKey values) with
  | some slot =>
    { slots with groups := slots.groups.modify slot fun group => (group.1, group.2 ++ [row]) }
  | none =>
    { index := (groupKey values, slots.groups.length) :: slots.index
      groups := slots.groups ++ [(values, [row])] }

/-- Puts rows into their groups, one after the other.  The first one without one of the values
ends it. -/
def gather (groupBy : List String) (primary : String) : Slots → List Row →
    Except QueryError Slots
  | slots, [] => .ok slots
  | slots, row :: rows => do
    let values ← groupBy.mapM (row.resolve · primary)
    gather groupBy primary (slots.add values row) rows

/-- The rows of the groups of some rows. -/
def grouped (groupBy : List String) (fields : List Field) (primary : String) (rows : List Row) :
    Except QueryError (List Row) := do
  let slots ← gather groupBy primary ⟨[], []⟩ rows
  slots.groups.mapM fun group => groupRow groupBy fields primary group.1 group.2

end Slots

/-! ## 4. One row, and a run of rows -/

/-- A row that was tagged with its values, by their text form. -/
def tagKey (tag : List Value × Row) : List String := groupKey tag.1

/-- A group of tagged rows, as its slot holds it. -/
def asSlot (group : (List Value × Row) × List (List Value × Row)) : List Value × List Row :=
  (group.1.1, group.2.map Prod.snd)

/-- The slots hold the groups of the rows that have come, and the index has for a text form the
one slot where it is. -/
structure Indexes (slots : Slots) (tags : List (List Value × Row)) : Prop where
  groups_eq : slots.groups = (groups tagKey tags).map asSlot
  lookup_eq_some_iff : ∀ key slot, slots.index.lookup key = some slot ↔
    (slots.groups[slot]?.map fun group => groupKey group.1) = some key

namespace Indexes

variable {slots : Slots} {tags : List (List Value × Row)}

theorem nil : Indexes ⟨[], []⟩ [] := ⟨rfl, fun key slot => by simp⟩

theorem keys_eq (h : Indexes slots tags) :
    slots.groups.map (fun group => groupKey group.1) = (firsts tagKey tags).map tagKey := by
  rw [h.groups_eq, groups, List.map_map, List.map_map]
  rfl

/-- A slot is in the index under the text form of its values. -/
theorem lookup_of_getElem? (h : Indexes slots tags) {slot : Nat}
    {group : List Value × List Row} (hslot : slots.groups[slot]? = some group)
    (key : List String) : slots.index.lookup key = some slot ↔ groupKey group.1 = key := by
  rw [h.lookup_eq_some_iff, hslot, Option.map_some, Option.some.injEq]

theorem lookup_cons_eq (key known : List String) (slot : Nat) (index : List (List String × Nat)) :
    ((known, slot) :: index).lookup key = if key = known then some slot else index.lookup key := by
  rw [List.lookup_cons]
  by_cases hkey : key = known
  · simp [hkey]
  · rw [beq_eq_false_iff_ne.mpr hkey, if_neg hkey]

/-- The index has the text forms of the rows that have come, and no other. -/
theorem lookup_eq_none_iff (h : Indexes slots tags) (key : List String) :
    slots.index.lookup key = none ↔ key ∉ tags.map tagKey := by
  rw [← mem_keys_firsts, ← h.keys_eq]
  constructor
  · intro hnone hmem
    obtain ⟨group, hgroup, hkey⟩ := List.mem_map.mp hmem
    obtain ⟨slot, hslot⟩ := List.getElem?_of_mem hgroup
    rw [(h.lookup_of_getElem? hslot key).mpr hkey] at hnone
    exact absurd hnone (by simp)
  · intro hmem
    cases hlookup : slots.index.lookup key with
    | none => rfl
    | some slot =>
      obtain ⟨group, hslot, hkey⟩ :=
        Option.map_eq_some_iff.mp ((h.lookup_eq_some_iff key slot).mp hlookup)
      exact absurd (List.mem_map.mpr ⟨group, List.mem_of_getElem? hslot, hkey⟩) hmem

/-- A row with new values gets a slot behind all others. -/
theorem add_new (h : Indexes slots tags) {values : List Value} (row : Row)
    (hlookup : slots.index.lookup (groupKey values) = none) :
    Indexes ⟨(groupKey values, slots.groups.length) :: slots.index,
      slots.groups ++ [(values, [row])]⟩ (tags ++ [(values, row)]) where
  groups_eq := by
    have hnew : tagKey (values, row) ∉ tags.map tagKey := (h.lookup_eq_none_iff _).mp hlookup
    rw [groups_snoc_of_notMem hnew, List.map_append, h.groups_eq]
    rfl
  lookup_eq_some_iff := fun key slot => by
    have hold := h.lookup_eq_some_iff key slot
    rw [lookup_cons_eq]
    rcases Nat.lt_trichotomy slot slots.groups.length with hlt | rfl | hgt
    · rw [List.getElem?_append_left hlt, ← hold]
      split_ifs with hkey
      · simp [hkey, hlookup, hlt.ne']
      · rfl
    · rw [List.getElem?_concat_length]
      split_ifs with hkey
      · simp [hkey]
      · simp [hold, Ne.symm hkey]
    · rw [List.getElem?_eq_none (by simp; omega)]
      split_ifs with hkey
      · simp [hgt.ne]
      · simp [hold, List.getElem?_eq_none hgt.le]

/-- A row with values that have come before goes to their slot. -/
theorem add_known (h : Indexes slots tags) {values : List Value} (row : Row) {slot : Nat}
    (hlookup : slots.index.lookup (groupKey values) = some slot) :
    Indexes ⟨slots.index, slots.groups.modify slot fun group => (group.1, group.2 ++ [row])⟩
      (tags ++ [(values, row)]) where
  groups_eq := by
    have hknown : tagKey (values, row) ∈ tags.map tagKey := by
      by_contra hnot
      have hnone := (h.lookup_eq_none_iff (groupKey values)).mpr hnot
      rw [hlookup] at hnone
      exact absurd hnone (by simp)
    have hmap : (groups tagKey (tags ++ [(values, row)])).map asSlot = slots.groups.map fun group =>
        if groupKey group.1 = groupKey values then (group.1, group.2 ++ [row]) else group := by
      rw [groups_snoc_of_mem hknown, h.groups_eq, List.map_map, List.map_map]
      refine List.map_congr_left fun group _ => ?_
      simp only [Function.comp_apply, asSlot, tagKey]
      by_cases hkey : groupKey group.1.1 = groupKey values <;> simp [hkey]
    rw [hmap]
    refine List.ext_getElem? fun i => ?_
    rw [List.getElem?_modify, List.getElem?_map]
    cases hi : slots.groups[i]? with
    | none => rfl
    | some group =>
      have hslot : slot = i ↔ groupKey group.1 = groupKey values := by
        rw [← h.lookup_of_getElem? hi, hlookup, Option.some.injEq]
      simp [hslot]
  lookup_eq_some_iff := fun key i => by
    rw [h.lookup_eq_some_iff, List.getElem?_modify]
    cases hi : slots.groups[i]? with
    | none => rfl
    | some group => by_cases hslot : slot = i <;> simp [hslot]

/-- **One row more.** -/
theorem add (h : Indexes slots tags) (values : List Value) (row : Row) :
    Indexes (slots.add values row) (tags ++ [(values, row)]) := by
  unfold Slots.add
  split
  · rename_i slot hlookup
    exact h.add_known row hlookup
  · rename_i hlookup
    exact h.add_new row hlookup

end Indexes

namespace Slots

variable {groupBy : List String} {primary : String} {rows : List Row} {fields : List Field}

/-- **A run of rows**: it ends where a row has not all the values, and else the slots hold the
groups of all rows. -/
theorem gather_spec (groupBy : List String) (primary : String) {slots : Slots}
    {tags : List (List Value × Row)} (h : Indexes slots tags) (rows : List Row) :
    match rows.mapM (withGroupValues groupBy primary) with
      | .error e => gather groupBy primary slots rows = .error e
      | .ok more => ∃ after, gather groupBy primary slots rows = .ok after ∧
          Indexes after (tags ++ more) := by
  induction rows generalizing slots tags with
  | nil => exact ⟨slots, rfl, by simpa using h⟩
  | cons row rows ih =>
    rw [List.mapM_cons, withGroupValues]
    cases hvalues : groupBy.mapM (row.resolve · primary) with
    | error e =>
      rw [gather, hvalues]
      rfl
    | ok values =>
      have hgather : gather groupBy primary slots (row :: rows) =
          gather groupBy primary (slots.add values row) rows := by
        rw [gather, hvalues]
        rfl
      have hrest := ih (h.add values row)
      rw [hgather]
      cases hmore : rows.mapM (withGroupValues groupBy primary) with
      | error e =>
        rw [hmore] at hrest
        exact hrest
      | ok more =>
        rw [hmore] at hrest
        obtain ⟨after, hafter, hindexes⟩ := hrest
        exact ⟨after, hafter, by simpa using hindexes⟩

/-- One pass groups the rows by the text form of their values. -/
theorem grouped_eq_keyed (groupBy : List String) (fields : List Field) (primary : String)
    (rows : List Row) : grouped groupBy fields primary rows =
      rows.mapM (withGroupValues groupBy primary) >>= fun tags =>
        (Relation.groups tagKey tags).mapM fun group =>
          groupRow groupBy fields primary group.1.1 (group.2.map Prod.snd) := by
  have hspec := gather_spec groupBy primary Indexes.nil rows
  rw [grouped]
  cases htags : rows.mapM (withGroupValues groupBy primary) with
  | error e =>
    rw [htags] at hspec
    rw [hspec]
    rfl
  | ok tags =>
    rw [htags] at hspec
    obtain ⟨slots, hslots, hindexes⟩ := hspec
    rw [hslots]
    simp only [bind, Except.bind]
    rw [hindexes.groups_eq, List.mapM_map]
    rfl

/-- The values of rows as tables hold them are values of tables. -/
theorem isStored_of_mem_tags (h : ∀ row ∈ rows, row.IsStored) {tags : List (List Value × Row)}
    (htags : rows.mapM (withGroupValues groupBy primary) = .ok tags) :
    ∀ tag ∈ tags, ∀ v ∈ tag.1, v.IsStored := by
  intro tag htag v hv
  obtain ⟨row, hrow, hvalues⟩ := exists_of_mem_mapM htags htag
  rw [withGroupValues] at hvalues
  cases hmapM : groupBy.mapM (row.resolve · primary) with
  | error e => simp [hmapM, Except.map] at hvalues
  | ok values =>
    rw [hmapM] at hvalues
    obtain rfl := Except.ok.inj hvalues
    obtain ⟨reference, -, hresolve⟩ := exists_of_mem_mapM hmapM hv
    rw [Row.resolve] at hresolve
    split at hresolve
    · rename_i w hw
      exact Except.ok.inj hresolve ▸ (h row hrow).of_resolve? hw
    · simp at hresolve

/-- **On the rows of tables one pass gives the groups** by the values themselves. -/
theorem grouped_eq_grouped (h : ∀ row ∈ rows, row.IsStored) :
    grouped groupBy fields primary rows = Relation.grouped groupBy fields primary rows := by
  rw [grouped_eq_keyed, Relation.grouped]
  cases htags : rows.mapM (withGroupValues groupBy primary) with
  | error e => rfl
  | ok tags =>
    have hstored := isStored_of_mem_tags h htags
    have hgroups : Relation.groups tagKey tags = Relation.groups Prod.fst tags :=
      groups_congr fun a ha b hb => Value.map_key_inj (hstored a ha) (hstored b hb)
    simp only [bind, Except.bind, hgroups]

end Slots

end Relation
end Tabular
