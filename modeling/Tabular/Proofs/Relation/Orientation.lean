/-
# The two ways to write a join condition

A join condition compares a column of the primary table with one of the joined table, and it may
be written either way round.  Which side belongs to which table is told by the joined table only:
a side that names it alone is compared on its rows, and otherwise the sides are taken as they are
written (`Join.isReversed`).

So a condition that names the joined table on one side can be turned round (`keys_turned`).  Where
it names only the primary table, turning it exchanges the columns (`keys_turned_of_not_names`),
and then it pairs other rows unless the columns have one name: **`rows_turned_iff`**.
-/
import Tabular.Proofs.Row
import Tabular.Relation.Join

namespace Tabular
namespace Join

variable {join : Join} {primary : String} {p j : Row}

/-! ## 1. Sides -/

/-- The join with the sides of its condition exchanged. -/
def turned (join : Join) : Join := { join with left := join.right, right := join.left }

/-- The condition names one of two different tables on a side, and none on both. -/
structure NamesTable (join : Join) (primary : String) : Prop where
  ne : primary ≠ join.table
  named : ∃ table ∈ [primary, join.table], belongsTo table join.left ∨ belongsTo table join.right
  once : ∀ table, ¬(belongsTo table join.left ∧ belongsTo table join.right)

/-- A side that names a table is compared on the rows of that table. -/
def IsSided (join : Join) (primary : String) : Prop :=
  ∀ side ∈ [join.left, join.right],
    (belongsTo primary side → join.primaryKey = columnOf side) ∧
      (belongsTo join.table side → join.joinedKey = columnOf side)

/-- A side names the joined table, or the columns of both sides have one name. -/
def TellsSides (join : Join) : Prop :=
  belongsTo join.table join.left ∨ belongsTo join.table join.right ∨
    columnOf join.left = columnOf join.right

theorem tellsSides_of_columnOf (h : belongsTo join.table join.left = false →
    belongsTo join.table join.right = false → columnOf join.left = columnOf join.right) :
    join.TellsSides := by
  cases hleft : belongsTo join.table join.left with
  | true => exact Or.inl hleft
  | false =>
    cases hright : belongsTo join.table join.right with
    | true => exact Or.inr (Or.inl hright)
    | false => exact Or.inr (Or.inr (h hleft hright))

/-- A reference names one table at most. -/
theorem eq_of_belongsTo {table table' reference : String} (h : belongsTo table reference)
    (h' : belongsTo table' reference) : table = table' := by
  simp only [belongsTo, Option.any_eq_true, decide_eq_true_eq] at h h'
  obtain ⟨parts, hparts, rfl⟩ := h
  obtain ⟨parts', hparts', rfl⟩ := h'
  rw [Option.some.inj (hparts.symm.trans hparts')]

theorem keys_of_left (h : belongsTo join.table join.left)
    (h' : belongsTo join.table join.right = false) :
    join.primaryKey = columnOf join.right ∧ join.joinedKey = columnOf join.left := by
  simp [primaryKey, joinedKey, isReversed, h, h']

theorem keys_of_not_left (h : belongsTo join.table join.left = false) :
    join.primaryKey = columnOf join.left ∧ join.joinedKey = columnOf join.right := by
  simp [primaryKey, joinedKey, isReversed, h]

/-- **A condition that names the joined table** on one side compares the same columns when it is
turned. -/
theorem keys_turned (h : belongsTo join.table join.left ≠ belongsTo join.table join.right) :
    join.turned.primaryKey = join.primaryKey ∧ join.turned.joinedKey = join.joinedKey := by
  cases hleft : belongsTo join.table join.left with
  | true =>
    have hright : belongsTo join.table join.right = false := by simpa [hleft] using h.symm
    rw [(keys_of_left hleft hright).1, (keys_of_left hleft hright).2]
    exact @keys_of_not_left join.turned hright
  | false =>
    have hright : belongsTo join.table join.right = true := by simpa [hleft] using h.symm
    rw [(keys_of_not_left hleft).1, (keys_of_not_left hleft).2]
    exact @keys_of_left join.turned hright hleft

/-- A condition that does not name it compares the columns the other way round. -/
theorem keys_turned_of_not_names (h : belongsTo join.table join.left = false)
    (h' : belongsTo join.table join.right = false) :
    join.turned.primaryKey = join.joinedKey ∧ join.turned.joinedKey = join.primaryKey := by
  rw [(keys_of_not_left h).1, (keys_of_not_left h).2]
  exact @keys_of_not_left join.turned h'

/-! ## 2. Rows -/

/-- Joins of one kind that pair the same rows have the same rows. -/
theorem rows_congr {join' : Join} (hkind : join.kind = join'.kind)
    (hpairs : ∀ p j, join.pairs p j = join'.pairs p j) (primary : String) (fields : List String)
    (primaryRows joinedRows : List Row) :
    join.rows primary fields primaryRows joinedRows =
      join'.rows primary fields primaryRows joinedRows := by
  have hpairs' : join.pairs = join'.pairs := funext fun p => funext fun j => hpairs p j
  simp only [rows, innerRows, leftRows, rightRows, hkind, hpairs']

theorem pairs_congr {join' : Join} (hprimary : join.primaryKey = join'.primaryKey)
    (hjoined : join.joinedKey = join'.joinedKey) (p j : Row) :
    join.pairs p j = join'.pairs p j := by
  rw [pairs, hprimary, hjoined, pairs]

/-- With two equal rows in each table, the number of joined rows tells whether they are paired. -/
theorem length_rows_twice (join : Join) (primary : String) (fields : List String) (p j : Row) :
    (join.rows primary fields [p, p] [j, j]).length =
      if join.pairs p j then 4 else if join.kind = .inner then 0 else 2 := by
  cases hkind : join.kind <;> cases hpairs : join.pairs p j <;>
    simp [rows, innerRows, leftRows, rightRows, hkind, hpairs]

/-- A row with one text. -/
def textRow (column text : String) : Row := Row.ofList [(column, .text text)]

theorem get?_textRow (column text c : String) :
    (textRow column text).get? c = if c = column then some (.text text) else none := by
  rw [textRow, Row.get?_ofList]
  by_cases h : column = c
  · simp [Entries.get?, h]
  · simp [Entries.get?, h, Ne.symm h]

/-- Rows with one column each are paired if the columns are those that are compared. -/
theorem pairs_textRow (join : Join) (column column' : String) :
    join.pairs (textRow column "x") (textRow column' "x") = true ↔
      join.primaryKey = column ∧ join.joinedKey = column' := by
  have hequal : (Value.text "x").looselyEquals (.text "x") = true := by decide
  rw [pairs, get?_textRow, get?_textRow]
  by_cases h : join.primaryKey = column <;> by_cases h' : join.joinedKey = column' <;>
    simp [h, h', Value.isNull, hequal]

/-- If a join pairs the same rows when it is turned, the columns it compares stay. -/
theorem keys_of_rows_turned {fields : List String}
    (h : ∀ primaryRows joinedRows, join.turned.rows primary fields primaryRows joinedRows =
      join.rows primary fields primaryRows joinedRows) :
    join.turned.primaryKey = join.primaryKey ∧ join.turned.joinedKey = join.joinedKey := by
  have hown : join.pairs (textRow join.primaryKey "x") (textRow join.joinedKey "x") = true :=
    (pairs_textRow join _ _).mpr ⟨rfl, rfl⟩
  have hlength := congrArg List.length
    (h [textRow join.primaryKey "x", textRow join.primaryKey "x"]
      [textRow join.joinedKey "x", textRow join.joinedKey "x"])
  rw [length_rows_twice, length_rows_twice, if_pos hown] at hlength
  refine (pairs_textRow join.turned _ _).mp ?_
  by_contra hnot
  rw [if_neg hnot] at hlength
  split at hlength <;> simp at hlength

/-! ## 3. Turned conditions -/

theorem NamesTable.turned (h : join.NamesTable primary) : join.turned.NamesTable primary where
  ne := h.ne
  named := by
    obtain ⟨table, htable, hnamed⟩ := h.named
    exact ⟨table, htable, hnamed.symm⟩
  once := fun table hboth => h.once table hboth.symm

theorem TellsSides.turned (h : join.TellsSides) : join.turned.TellsSides := by
  rcases h with hleft | hright | hcolumns
  · exact Or.inr (Or.inl hleft)
  · exact Or.inl hright
  · exact Or.inr (Or.inr hcolumns.symm)

theorem TellsSides.keys_turned (hnames : join.NamesTable primary) (h : join.TellsSides) :
    join.turned.primaryKey = join.primaryKey ∧ join.turned.joinedKey = join.joinedKey := by
  by_cases hone : belongsTo join.table join.left = belongsTo join.table join.right
  · have hleft : belongsTo join.table join.left = false := by
      rw [← Bool.not_eq_true]
      exact fun hleft => hnames.once join.table ⟨hleft, hone ▸ hleft⟩
    have hright : belongsTo join.table join.right = false := hone ▸ hleft
    have hcolumns : columnOf join.left = columnOf join.right := by
      simpa [TellsSides, hleft, hright] using h
    rw [(keys_turned_of_not_names hleft hright).1, (keys_turned_of_not_names hleft hright).2,
      (keys_of_not_left hleft).1, (keys_of_not_left hleft).2, hcolumns]
    exact ⟨rfl, rfl⟩
  · exact Join.keys_turned hone

theorem TellsSides.isSided (hnames : join.NamesTable primary) (h : join.TellsSides) :
    join.IsSided primary := by
  have hapart : ∀ side, belongsTo primary side → belongsTo join.table side = false := by
    intro side hprimary
    rw [← Bool.not_eq_true]
    exact fun hjoined => hnames.ne (eq_of_belongsTo hprimary hjoined)
  intro side hside
  cases hleft : belongsTo join.table join.left with
  | true =>
    have hright : belongsTo join.table join.right = false := by
      rw [← Bool.not_eq_true]
      exact fun hright => hnames.once join.table ⟨hleft, hright⟩
    obtain ⟨hprimaryKey, hjoinedKey⟩ := keys_of_left hleft hright
    rcases List.mem_pair.mp hside with rfl | rfl
    · exact ⟨fun hprimary => by simp [hapart _ hprimary] at hleft, fun _ => hjoinedKey⟩
    · exact ⟨fun _ => hprimaryKey, fun hjoined => by simp [hright] at hjoined⟩
  | false =>
    obtain ⟨hprimaryKey, hjoinedKey⟩ := keys_of_not_left hleft
    rcases List.mem_pair.mp hside with rfl | rfl
    · exact ⟨fun _ => hprimaryKey, fun hjoined => by simp [hleft] at hjoined⟩
    · refine ⟨fun hprimary => ?_, fun _ => hjoinedKey⟩
      -- The right side names the primary table, so only the columns can tell the sides.
      have hcolumns : columnOf join.left = columnOf join.right := by
        simpa [TellsSides, hleft, hapart _ hprimary] using h
      rw [hprimaryKey, hcolumns]

/-- A condition that names the primary table only is taken wrongly when it stands behind. -/
theorem tellsSides_of_isSided (hnames : join.NamesTable primary) (h : join.IsSided primary)
    (h' : join.turned.IsSided primary) : join.TellsSides := by
  refine tellsSides_of_columnOf fun hleft hright => ?_
  have hkey : join.primaryKey = columnOf join.left := (keys_of_not_left hleft).1
  have hkey' : join.turned.primaryKey = columnOf join.right :=
    (@keys_of_not_left join.turned hright).1
  obtain ⟨table, htable, hnamed⟩ := hnames.named
  rcases List.mem_pair.mp htable with rfl | rfl
  · rcases hnamed with hprimary | hprimary
    · have hcolumn := (h' join.left (by simp [Join.turned])).1 hprimary
      exact hcolumn.symm.trans hkey'
    · have hcolumn := (h join.right (by simp)).1 hprimary
      exact hkey.symm.trans hcolumn
  · simp [hleft, hright] at hnamed

/-- **When a condition may be written either way round.**  For a condition that names one of two
different tables on a side, and none on both: it gives the same rows of all tables when it is
turned, and both ways every side that names a table is compared on the rows of that table, if and
only if it names the joined table, or its columns have one name. -/
theorem rows_turned_iff (h : join.NamesTable primary) (fields : List String) :
    ((∀ primaryRows joinedRows, join.turned.rows primary fields primaryRows joinedRows =
        join.rows primary fields primaryRows joinedRows) ↔ join.TellsSides) ∧
      (join.IsSided primary ∧ join.turned.IsSided primary ↔ join.TellsSides) := by
  refine ⟨⟨fun hrows => ?_, fun htells primaryRows joinedRows => ?_⟩,
    fun hsided => tellsSides_of_isSided h hsided.1 hsided.2,
    fun htells => ⟨htells.isSided h, htells.turned.isSided h.turned⟩⟩
  · refine tellsSides_of_columnOf fun hleft hright => ?_
    have hkeys := (keys_of_rows_turned hrows).2
    rwa [(keys_turned_of_not_names hleft hright).2, (keys_of_not_left hleft).1,
      (keys_of_not_left hleft).2] at hkeys
  · obtain ⟨hprimary, hjoined⟩ := htells.keys_turned h
    have hpairs : ∀ p j, join.turned.pairs p j = join.pairs p j := pairs_congr hprimary hjoined
    have hkind : join.turned.kind = join.kind := rfl
    exact rows_congr hkind hpairs primary fields primaryRows joinedRows

/-- The pets of people, where only the column of the pets is written with its table. -/
def petsOf : Join := ⟨.left, "pets", "id", "pets.owner"⟩

theorem rows_turned_pets : petsOf.NamesTable "people" ∧ petsOf.IsSided "people" ∧
    ∀ primaryRows joinedRows, petsOf.turned.rows "people" ["pets.name"] primaryRows joinedRows =
      petsOf.rows "people" ["pets.name"] primaryRows joinedRows := by
  have hnames : petsOf.NamesTable "people" :=
    { ne := by decide
      named := ⟨"pets", by decide, Or.inr (by decide +kernel)⟩
      once := by
        rintro table ⟨hleft, -⟩
        rw [belongsTo, show Row.splitReference petsOf.left = none by decide +kernel] at hleft
        simp at hleft }
  obtain ⟨hrows, hsided⟩ := rows_turned_iff hnames ["pets.name"]
  have htells : petsOf.TellsSides := Or.inr (Or.inl (by decide +kernel))
  exact ⟨hnames, (hsided.mpr htells).1, hrows.mpr htells⟩

/-- **A condition that names only the primary table** pairs other rows when it is turned. -/
theorem turned_pairs_other_rows :
    (⟨.inner, "b", "a.k", "m"⟩ : Join).rows "a" ["a.k"] [textRow "k" "1"] [textRow "m" "1"] =
        [textRow "a.k" "1"] ∧
      (⟨.inner, "b", "m", "a.k"⟩ : Join).rows "a" ["a.k"] [textRow "k" "1"] [textRow "m" "1"] =
        [] := by
  decide +kernel

end Join
end Tabular
