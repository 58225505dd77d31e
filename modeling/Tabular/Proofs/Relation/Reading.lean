/-
# What the stages of a query read of a row

Every stage reads a row through the references of its clause and in no other way.  So two lists of
rows that hold the same under these references go the same way: where they are made from the same
things, the same things pass (`restrict_map`), come in the same order (`sorted_map`), and give the
same groups (`grouped_congr`) and aggregates (`aggregateCells_congr`).
-/
import Tabular.Proofs.Results
import Tabular.Relation.Arrange
import Tabular.Relation.Reduce

namespace Tabular

/-! ## 1. Rows that hold the same under some references -/

/-- Do both rows hold the same under each of the references? -/
def ReadAlike (references : List String) (primary : String) (row row' : Row) : Prop :=
  ∀ reference ∈ references, row.resolve? reference primary = row'.resolve? reference primary

variable {primary : String} {references : List String} {row row' : Row}

theorem ReadAlike.mono {fewer : List String} (h : ReadAlike references primary row row')
    (hsubset : fewer ⊆ references) : ReadAlike fewer primary row row' :=
  fun reference hreference => h reference (hsubset hreference)

theorem ReadAlike.resolve_eq (h : ReadAlike references primary row row') {reference : String}
    (hreference : reference ∈ references) :
    row.resolve reference primary = row'.resolve reference primary := by
  rw [Row.resolve, Row.resolve, h reference hreference]

/-- A condition reads its field. -/
theorem ReadAlike.satisfiesAll_eq {conditions : List Condition}
    (h : ReadAlike (conditions.map Condition.field) primary row row') :
    row.satisfiesAll primary conditions = row'.satisfiesAll primary conditions := by
  induction conditions with
  | nil => rfl
  | cons condition conditions ih =>
    have hfield := h.resolve_eq (List.mem_cons_self)
    have hrest := ih (h.mono (List.subset_cons_self _ _))
    simp only [Row.satisfiesAll, Row.satisfies, hfield, hrest]

/-- Sort keys read their fields. -/
theorem ReadAlike.value_eq {keys : List SortKey}
    (h : ReadAlike (keys.map SortKey.field) primary row row') {key : SortKey} (hkey : key ∈ keys) :
    key.value primary row = key.value primary row' := by
  rw [SortKey.value, SortKey.value, h key.field (List.mem_map_of_mem hkey)]

/-- Group fields read themselves. -/
theorem ReadAlike.groupValues_eq {groupBy : List String}
    (h : ReadAlike groupBy primary row row') :
    groupBy.mapM (row.resolve · primary) = groupBy.mapM (row'.resolve · primary) := by
  induction groupBy with
  | nil => rfl
  | cons reference groupBy ih =>
    have hrest := ih (h.mono (List.subset_cons_self _ _))
    rw [List.mapM_cons, List.mapM_cons, hrest, h.resolve_eq List.mem_cons_self]

namespace Relation

/-! ## 2. The stages -/

variable {α : Type} {f g : α → Row} {xs : List α}

/-- **The same things pass**, or the test fails on both sides in the same way. -/
theorem filterOk_map {ε : Type} {test : Row → Except ε Bool}
    (h : ∀ x ∈ xs, test (f x) = test (g x)) : ∃ passing : Except ε (List α),
      filterOk test (xs.map f) = passing.map (List.map f) ∧
      filterOk test (xs.map g) = passing.map (List.map g) ∧
      ∀ kept, passing = .ok kept → kept.Sublist xs := by
  induction xs with
  | nil => exact ⟨.ok [], rfl, rfl, fun kept hkept => Except.ok.inj hkept ▸ .slnil⟩
  | cons x xs ih =>
    obtain ⟨passing, hf, hg, hsub⟩ := ih fun y hy => h y (List.mem_cons_of_mem _ hy)
    simp only [List.map_cons, filterOk, ← h x List.mem_cons_self, hf, hg]
    cases test (f x) with
    | error e => exact ⟨.error e, rfl, rfl, fun kept hkept => by simp at hkept⟩
    | ok keep =>
      cases passing with
      | error e => exact ⟨.error e, rfl, rfl, fun kept hkept => by simp at hkept⟩
      | ok kept =>
        cases keep with
        | false =>
          refine ⟨.ok kept, rfl, rfl, fun kept' hkept => ?_⟩
          exact Except.ok.inj hkept ▸ (hsub kept rfl).cons x
        | true =>
          refine ⟨.ok (x :: kept), rfl, rfl, fun kept' hkept => ?_⟩
          exact Except.ok.inj hkept ▸ (hsub kept rfl).cons_cons x

theorem restrict_map {conditions : List Condition}
    (h : ∀ x ∈ xs, ReadAlike (conditions.map Condition.field) primary (f x) (g x)) :
    ∃ passing : Except QueryError (List α),
      restrict primary conditions (xs.map f) = passing.map (List.map f) ∧
      restrict primary conditions (xs.map g) = passing.map (List.map g) ∧
      ∀ kept, passing = .ok kept → kept.Sublist xs :=
  filterOk_map fun x hx => (h x hx).satisfiesAll_eq

theorem orderAll_congr {keys : List SortKey} {a a' b b' : Row}
    (ha : ReadAlike (keys.map SortKey.field) primary a a')
    (hb : ReadAlike (keys.map SortKey.field) primary b b') :
    SortKey.orderAll keys primary a b = SortKey.orderAll keys primary a' b' := by
  induction keys with
  | nil => rfl
  | cons key keys ih =>
    have hrest := ih (ha.mono (List.subset_cons_self _ _)) (hb.mono (List.subset_cons_self _ _))
    simp only [SortKey.orderAll, SortKey.order, ha.value_eq List.mem_cons_self,
      hb.value_eq List.mem_cons_self, hrest]

/-- **They come in the same order.** -/
theorem sorted_map {keys : List SortKey}
    (h : ∀ x ∈ xs, ReadAlike (keys.map SortKey.field) primary (f x) (g x)) :
    ∃ ordered : List α, ordered.Perm xs ∧
      sorted keys primary (xs.map f) = ordered.map f ∧
      sorted keys primary (xs.map g) = ordered.map g := by
  refine ⟨xs.mergeSort fun x y => (SortKey.orderAll keys primary (f x) (f y)).isLE,
    List.mergeSort_perm _ _, ?_, ?_⟩
  · exact (List.map_mergeSort (f := f) fun _ _ _ _ => rfl).symm
  · refine (List.map_mergeSort (f := g) fun x hx y hy => ?_).symm
    rw [orderAll_congr (h x hx) (h y hy)]

/-- Where something is left of every row, a projection is a map. -/
theorem project_eq_map {fields : List Field} {rows : List Row} {cut : Row → Row}
    (hcut : ∀ row ∈ rows, projectRow fields primary row = cut row)
    (hne : ∀ row ∈ rows, (cut row).isEmpty = false) :
    project fields primary rows = rows.map cut := by
  rw [project, List.map_congr_left hcut, List.filter_eq_self]
  intro out hout
  obtain ⟨row, hrow, rfl⟩ := List.mem_map.mp hout
  rw [hne row hrow, Bool.not_false]

/-! ## 3. Aggregates and groups -/

/-- The references inside the aggregate calls among some fields. -/
def argumentsOf (fields : List Field) : List String :=
  fields.filterMap fun field => field.aggregate.bind AggregateCall.column?

theorem value_congr {call : AggregateCall}
    (h : ∀ x ∈ xs, ReadAlike call.column?.toList primary (f x) (g x)) :
    call.value primary (xs.map f) = call.value primary (xs.map g) := by
  rw [AggregateCall.value, AggregateCall.value]
  cases hargument : call.argument with
  | star => simp only [List.length_map]
  | column reference =>
    have hreference : reference ∈ call.column?.toList := by simp [AggregateCall.column?, hargument]
    have hvalues : xs.mapM (fun x => (f x).resolve reference primary) =
        xs.mapM fun x => (g x).resolve reference primary :=
      mapM_congr fun x hx => (h x hx).resolve_eq hreference
    simp only [List.mapM_map, Function.comp_def, hvalues]

/-- **The same aggregates**: they read the references inside of them. -/
theorem aggregateCells_congr {fields : List Field}
    (h : ∀ x ∈ xs, ReadAlike (argumentsOf fields) primary (f x) (g x)) :
    aggregateCells fields primary (xs.map f) = aggregateCells fields primary (xs.map g) := by
  refine mapM_congr fun named hnamed => ?_
  obtain ⟨field, hfield, hcall⟩ := List.mem_filterMap.mp hnamed
  obtain ⟨call, haggregate, rfl⟩ := Option.map_eq_some_iff.mp hcall
  have hvalue : call.value primary (xs.map f) = call.value primary (xs.map g) := by
    refine value_congr fun x hx => (h x hx).mono fun reference hreference => ?_
    exact List.mem_filterMap.mpr ⟨field, hfield, by simpa [haggregate] using hreference⟩
  rw [hvalue]

theorem firsts_map {β κ : Type} [DecidableEq κ] (key : β → κ) (k : α → β) (xs : List α) :
    firsts key (xs.map k) = (firsts (key ∘ k) xs).map k := by
  induction xs with
  | nil => rfl
  | cons x xs ih => simp [firsts, ih, List.filter_map, Function.comp_def]

theorem groups_map {β κ : Type} [DecidableEq κ] (key : β → κ) (k : α → β) (xs : List α) :
    groups key (xs.map k) =
      (groups (key ∘ k) xs).map fun group => (k group.1, group.2.map k) := by
  simp [groups, firsts_map, classOf, List.filter_map, Function.comp_def]

/-- Things with the values that group them. -/
def tagged (groupBy : List String) (primary : String) (f : α → Row) (x : α) :
    Except QueryError (List Value × α) :=
  (groupBy.mapM ((f x).resolve · primary)).map (·, x)

theorem mapM_withGroupValues (groupBy : List String) (primary : String) (f : α → Row)
    (xs : List α) : (xs.map f).mapM (withGroupValues groupBy primary) =
      (xs.mapM (tagged groupBy primary f)).map (List.map fun t => (t.1, f t.2)) := by
  induction xs with
  | nil => rfl
  | cons x xs ih =>
    rw [List.map_cons, List.mapM_cons, ih, List.mapM_cons, withGroupValues, tagged]
    cases groupBy.mapM ((f x).resolve · primary) with
    | error e => rfl
    | ok values => cases xs.mapM (tagged groupBy primary f) <;> rfl

/-- What is tagged is one of the things. -/
theorem mem_of_mapM_tagged {groupBy : List String} {tags : List (List Value × α)}
    (h : xs.mapM (tagged groupBy primary f) = .ok tags) {t : List Value × α} (ht : t ∈ tags) :
    t.2 ∈ xs := by
  obtain ⟨x, hx, htag⟩ := exists_of_mem_mapM h ht
  rw [tagged] at htag
  cases hvalues : groupBy.mapM ((f x).resolve · primary) with
  | error e => simp [hvalues, Except.map] at htag
  | ok values =>
    rw [hvalues] at htag
    obtain rfl := Except.ok.inj htag
    exact hx

theorem mem_of_mem_groups {κ : Type} [DecidableEq κ] {key : α → κ} {group : α × List α}
    (h : group ∈ groups key xs) {x : α} (hx : x ∈ group.2) : x ∈ xs := by
  obtain ⟨first, -, rfl⟩ := List.mem_map.mp h
  exact (List.mem_filter.mp hx).1

/-- The rows of groups, by the things that the rows are made from. -/
theorem grouped_map (groupBy : List String) (fields : List Field) (primary : String) (f : α → Row)
    (xs : List α) : grouped groupBy fields primary (xs.map f) =
      xs.mapM (tagged groupBy primary f) >>= fun tags =>
        (groups Prod.fst tags).mapM fun group =>
          groupRow groupBy fields primary group.1.1 (group.2.map fun t => f t.2) := by
  rw [grouped, mapM_withGroupValues]
  cases xs.mapM (tagged groupBy primary f) with
  | error e => rfl
  | ok tags =>
    simp only [Except.map, bind, Except.bind, groups_map, List.mapM_map]
    simp [Function.comp_def]

/-- **The same groups**, with the same values and aggregates. -/
theorem grouped_congr {groupBy : List String} {fields : List Field}
    (h : ∀ x ∈ xs, ReadAlike (groupBy ++ argumentsOf fields) primary (f x) (g x)) :
    xs.mapM (tagged groupBy primary f) = xs.mapM (tagged groupBy primary g) ∧
      grouped groupBy fields primary (xs.map f) = grouped groupBy fields primary (xs.map g) := by
  have htags : xs.mapM (tagged groupBy primary f) = xs.mapM (tagged groupBy primary g) := by
    refine mapM_congr fun x hx => ?_
    rw [tagged, tagged, ((h x hx).mono (List.subset_append_left _ _)).groupValues_eq]
  refine ⟨htags, ?_⟩
  rw [grouped_map, grouped_map, htags]
  cases hg : xs.mapM (tagged groupBy primary g) with
  | error e => simp only [bind, Except.bind]
  | ok tags =>
    simp only [bind, Except.bind]
    refine mapM_congr fun group hgroup => ?_
    have hcells : aggregateCells fields primary (group.2.map fun t => f t.2) =
        aggregateCells fields primary (group.2.map fun t => g t.2) := by
      refine aggregateCells_congr fun t ht => ?_
      have hmem : t.2 ∈ xs := mem_of_mapM_tagged hg (mem_of_mem_groups hgroup ht)
      exact (h t.2 hmem).mono (List.subset_append_right _ _)
    rw [groupRow, groupRow, hcells]

end Relation
end Tabular
