import CallPolicy.Call.Document

namespace CallPolicy

/-!
# Nested values

A text may nest lists and tables up to a limit, which only the values of arguments are held against.
An entry in a list is one level closer to it than the same entry on its own.

* `Datum.nesting` — how deep the lists and tables of a value are nested.
* `Datum.isReadable_congr` — a limit that is not reached does not matter.
* `Record.nesting_le_of_read?` — the fields of a record are nested less deep than the record.
* `SiteEntry.ofDatum?_one_eq` — an entry that fits into a list is read there as it is on its own.
-/

namespace Datum

mutual

/-- How deep lists and tables are nested. -/
def nesting : Datum → Nat
  | list items => nestingOfItems items + 1
  | table entries => nestingOfEntries entries + 1
  | _ => 0

def nestingOfItems : List Datum → Nat
  | [] => 0
  | item :: items => max (nesting item) (nestingOfItems items)

def nestingOfEntries : List (String × Datum) → Nat
  | [] => 0
  | (_, value) :: entries => max (nesting value) (nestingOfEntries entries)

end

theorem nesting_le_of_mem_items {item : Datum} {items : List Datum} (h : item ∈ items) :
    item.nesting ≤ nestingOfItems items := by
  induction items with
  | nil => cases h
  | cons first rest ih =>
    rw [nestingOfItems]
    rcases List.mem_cons.1 h with rfl | hrest
    · exact Nat.le_max_left _ _
    · exact Nat.le_trans (ih hrest) (Nat.le_max_right _ _)

theorem nesting_le_of_mem_entries {entry : String × Datum} {entries : List (String × Datum)}
    (h : entry ∈ entries) : entry.2.nesting ≤ nestingOfEntries entries := by
  induction entries with
  | nil => cases h
  | cons first rest ih =>
    rw [nestingOfEntries]
    rcases List.mem_cons.1 h with rfl | hrest
    · exact Nat.le_max_left _ _
    · exact Nat.le_trans (ih hrest) (Nat.le_max_right _ _)

mutual

/-- A limit that is not reached does not matter. -/
theorem isReadable_congr {m n : Nat} (d : Datum) (hm : d.nesting ≤ m) (hn : d.nesting ≤ n) :
    d.isReadable m = d.isReadable n := by
  cases d with
  | list items =>
    rw [nesting] at hm hn
    obtain ⟨m, rfl⟩ : ∃ k, m = k + 1 := ⟨m - 1, by omega⟩
    obtain ⟨n, rfl⟩ : ∃ k, n = k + 1 := ⟨n - 1, by omega⟩
    rw [isReadable, isReadable]
    exact areReadable_congr items (by omega) (by omega)
  | table entries =>
    rw [nesting] at hm hn
    obtain ⟨m, rfl⟩ : ∃ k, m = k + 1 := ⟨m - 1, by omega⟩
    obtain ⟨n, rfl⟩ : ∃ k, n = k + 1 := ⟨n - 1, by omega⟩
    rw [isReadable, isReadable]
    exact entriesAreReadable_congr entries (by omega) (by omega)
  | null | bool | int | float | text | moment | unreadable => rfl

theorem areReadable_congr {m n : Nat} (items : List Datum) (hm : nestingOfItems items ≤ m)
    (hn : nestingOfItems items ≤ n) : areReadable m items = areReadable n items := by
  cases items with
  | nil => rfl
  | cons item rest =>
    rw [nestingOfItems] at hm hn
    have hitem : item.isReadable m = item.isReadable n :=
      isReadable_congr item (by omega) (by omega)
    have hrest : areReadable m rest = areReadable n rest :=
      areReadable_congr rest (by omega) (by omega)
    rw [areReadable, areReadable, hitem, hrest]

theorem entriesAreReadable_congr {m n : Nat} (entries : List (String × Datum))
    (hm : nestingOfEntries entries ≤ m) (hn : nestingOfEntries entries ≤ n) :
    entriesAreReadable m entries = entriesAreReadable n entries := by
  cases entries with
  | nil => rfl
  | cons entry rest =>
    obtain ⟨key, value⟩ := entry
    rw [nestingOfEntries] at hm hn
    have hvalue : value.isReadable m = value.isReadable n :=
      isReadable_congr value (by omega) (by omega)
    have hrest : entriesAreReadable m rest = entriesAreReadable n rest :=
      entriesAreReadable_congr rest (by omega) (by omega)
    rw [entriesAreReadable, entriesAreReadable, hvalue, hrest]

end

end Datum

/-! ### Records -/

namespace Record

/-- The fields of a record are nested less deep than the record, if this is nested at all. -/
theorem nesting_le_of_read? {conventions : Conventions} {fields : List Field} {closed : Bool}
    {d : Datum} {record : Record} (h : read? conventions fields closed d = some record)
    {entry : String × Datum} (hentry : entry ∈ record) : entry.2.nesting ≤ d.nesting - 1 := by
  have hknown : ∀ entries, d.entries? = some entries → entry ∈ known fields entries →
      entry.2.nesting ≤ d.nesting - 1 := by
    intro entries hentries hmem
    obtain ⟨⟨key, value⟩, hin, hfield⟩ := List.mem_filterMap.1 hmem
    obtain ⟨field, -, rfl⟩ := Option.map_eq_some_iff.1 hfield
    cases d with
    | table written =>
      cases hentries
      have hvalue : (key, value).2.nesting ≤ Datum.nestingOfEntries entries :=
        Datum.nesting_le_of_mem_entries hin
      exact hvalue
    | moment s =>
      cases hentries
      cases List.mem_singleton.1 hin
      exact Nat.zero_le _
    | null | bool | int | float | text | unreadable | list => cases hentries
  unfold read? at h
  split at h
  · split at h
    · cases h
      exact Datum.nesting_le_of_mem_items (List.of_mem_zip hentry).2
    · cases h
  · obtain ⟨entries, hentries, hrecord⟩ := Option.bind_eq_some_iff.1 h
    refine hknown entries hentries ?_
    dsimp only at hrecord
    split at hrecord
    · cases hrecord
    · split at hrecord
      · cases hrecord
        exact hentry
      · cases hrecord

end Record

/-! ### Entries in a list -/

theorem mapM_congr {α β : Type} {f g : α → Option β} {xs : List α} (h : ∀ x ∈ xs, f x = g x) :
    xs.mapM f = xs.mapM g := by
  induction xs with
  | nil => rfl
  | cons x rest ih =>
    rw [List.forall_mem_cons] at h
    rw [List.mapM_cons, List.mapM_cons, h.1, ih h.2]

theorem readArgument?_congr {m n : Nat} {d : Datum} (hm : d.nesting + m ≤ jsonNestingLimit)
    (hn : d.nesting + n ≤ jsonNestingLimit) : readArgument? m d = readArgument? n d := by
  unfold readArgument?
  rw [Datum.isReadable_congr d (Nat.le_sub_of_add_le hm) (Nat.le_sub_of_add_le hn)]

namespace SiteEntry

/-- An entry that fits into a list is read there as it is on its own. -/
theorem ofDatum?_one_eq {d : Datum} (h : d.nesting < jsonNestingLimit) :
    ofDatum? 1 d = ofDatum? 0 d := by
  have harguments : ∀ record, Record.read? .json fields false d = some record →
      Record.default? record "args" [] (Datum.listOf? (readArgument? (1 + 2))) =
        Record.default? record "args" [] (Datum.listOf? (readArgument? (0 + 2))) := by
    intro record hrecord
    unfold Record.default?
    cases hlookup : record.lookup "args" with
    | none => rfl
    | some value =>
      obtain ⟨front, back, hsplit, -⟩ := List.lookup_eq_some_iff.1 hlookup
      have hmem : ("args", value) ∈ record := by
        rw [hsplit]
        exact List.mem_append_right _ List.mem_cons_self
      have hvalue : value.nesting ≤ d.nesting - 1 := Record.nesting_le_of_read? hrecord hmem
      cases value with
      | list items =>
        rw [Datum.nesting] at hvalue
        refine mapM_congr fun item hitem => ?_
        have hle : item.nesting ≤ Datum.nestingOfItems items := Datum.nesting_le_of_mem_items hitem
        exact readArgument?_congr (by omega) (by omega)
      | _ => rfl
  unfold ofDatum?
  refine Option.bind_congr fun record hrecord => ?_
  rw [harguments record hrecord]

end SiteEntry

end CallPolicy
