import CallPolicy.Rule.Document
import Mathlib.Data.List.Perm.Basic
import Mathlib.Data.List.Perm.Subperm
import Mathlib.Data.List.Nodup
import Mathlib.Data.Option.Basic

namespace CallPolicy

open Text

/-!
# Tables of conditions

A table of a configuration has texts for keys, and several texts may stand for one position: `1`,
`01` and `+1` do. This file says which conditions a table is loaded as.

* `Conditions.lookup_put`, `Conditions.pairwise_put` — one more condition.
* `Conditions.tryInsert_cases` — what an attempt to put one in can come to.
* `Conditions.insert_eq_ok_iff` — when it is put in.
* `Conditions.foldlM_insertWritten` — a run of insertions: for each position the last entry counts.
* `Conditions.get?_ofTable` — so in a table the entry counts whose key is the last in order.
* `Conditions.Keeps` — no entry of a table is lost.
* `Conditions.keeps_iff` — this is so exactly if the keys name different positions.
-/

/-! ### Entries in the order of their keys -/

theorem Datum.insertByKey_perm {α : Type} (entry : String × α) (entries : List (String × α)) :
    (insertByKey entry entries).Perm (entry :: entries) := by
  induction entries with
  | nil => exact List.Perm.refl _
  | cons first rest ih =>
    unfold insertByKey
    split
    · exact List.Perm.refl _
    · exact (ih.cons first).trans (List.Perm.swap entry first rest)

theorem Datum.foldl_insertByKey_perm {α : Type} (entries sorted : List (String × α)) :
    (entries.foldl (fun sorted entry => insertByKey entry sorted) sorted).Perm
      (entries ++ sorted) := by
  induction entries generalizing sorted with
  | nil => exact List.Perm.refl _
  | cons entry rest ih =>
    have hinsert : (rest ++ insertByKey entry sorted).Perm (rest ++ entry :: sorted) :=
      (insertByKey_perm entry sorted).append_left rest
    exact ((ih _).trans hinsert).trans List.perm_middle

/-- Sorting entries loses none and adds none. -/
theorem Datum.sortByKey_perm {α : Type} (entries : List (String × α)) :
    (sortByKey entries).Perm entries := by
  have hperm := foldl_insertByKey_perm entries []
  rw [List.append_nil] at hperm
  exact hperm

namespace Conditions

/-! ### One more condition -/

/-- The positions of the conditions. -/
def positions (c : Conditions) : List Nat :=
  c.entries.map (·.1)

theorem lookup_cons_eq_ite (q : Nat) (entry : Nat × Argument) (rest : List (Nat × Argument)) :
    (entry :: rest).lookup q = if q = entry.1 then some entry.2 else rest.lookup q := by
  rw [List.lookup_cons]
  by_cases hq : q = entry.1
  · simp [hq]
  · have hne : (q == entry.1) = false := beq_false_of_ne hq
    rw [hne, if_neg hq]

/-- The new literal stands at its position, and the others where they stood. -/
theorem lookup_put (position q : Nat) (value : Argument) (entries : List (Nat × Argument)) :
    (put position value entries).lookup q =
      if q = position then some value else entries.lookup q := by
  induction entries with
  | nil => rw [put, lookup_cons_eq_ite]
  | cons entry rest ih =>
    unfold put
    split
    · rw [lookup_cons_eq_ite]
    split
    · rename_i heq
      rw [lookup_cons_eq_ite, lookup_cons_eq_ite, ← heq]
      by_cases hq : q = position
      · rw [if_pos hq, if_pos hq]
      · rw [if_neg hq, if_neg hq, if_neg hq]
    · rename_i hne
      rw [lookup_cons_eq_ite, lookup_cons_eq_ite, ih]
      by_cases hentry : q = entry.1
      · have hq : ¬ q = position := fun h => hne (h.symm.trans hentry)
        rw [if_pos hentry, if_neg hq, if_pos hentry]
      · rw [if_neg hentry, if_neg hentry]

theorem mem_map_put_iff (position q : Nat) (value : Argument) (entries : List (Nat × Argument)) :
    q ∈ (put position value entries).map (·.1) ↔ q = position ∨ q ∈ entries.map (·.1) := by
  induction entries with
  | nil => simp [put]
  | cons entry rest ih =>
    unfold put
    split
    · simp
    split
    · rename_i heq
      simp [heq]
    · rw [List.map_cons, List.mem_cons, ih, List.map_cons, List.mem_cons]
      exact or_left_comm

/-- The positions stay in strict order. -/
theorem pairwise_put {entries : List (Nat × Argument)}
    (h : (entries.map (·.1)).Pairwise (· < ·)) (position : Nat) (value : Argument) :
    ((put position value entries).map (·.1)).Pairwise (· < ·) := by
  induction entries with
  | nil => simp [put]
  | cons entry rest ih =>
    rw [List.map_cons, List.pairwise_cons] at h
    unfold put
    split
    · rename_i hlt
      rw [List.map_cons, List.map_cons, List.pairwise_cons, List.pairwise_cons]
      refine ⟨fun q hq => ?_, h⟩
      rcases List.mem_cons.1 hq with rfl | hq
      · exact hlt
      · exact Nat.lt_trans hlt (h.1 q hq)
    split
    · rename_i heq
      rw [List.map_cons, List.pairwise_cons]
      show (∀ q ∈ rest.map (·.1), position < q) ∧ _
      rw [heq]
      exact h
    · -- Behind a smaller position the new one is put further on.
      rename_i hle hne
      rw [List.map_cons, List.pairwise_cons]
      refine ⟨fun q hq => ?_, ih h.2⟩
      rcases (mem_map_put_iff position q value rest).1 hq with rfl | hq
      · omega
      · exact h.1 q hq

/-- All that an attempt to insert can come to: the literal is put in, or else it is refused, at
position 0 or because it is not known, and the conditions are what they were. -/
theorem tryInsert_cases (c : Conditions) (position : Nat) (value : Argument) :
    (position ≠ 0 ∧ value.isKnown = true ∧
        c.tryInsert position value = (.ok (), ⟨put position value c.entries⟩)) ∨
      (position = 0 ∧ c.tryInsert position value = (.error (.invalidPosition "0"), c)) ∨
      (position ≠ 0 ∧ value = .unknown ∧
        c.tryInsert position value = (.error (.unsupportedValue position "<unknown>"), c)) := by
  unfold tryInsert
  by_cases hposition : position = 0
  · refine Or.inr (Or.inl ⟨hposition, ?_⟩)
    rw [if_pos hposition, hposition]
    rfl
  rw [if_neg hposition]
  cases value with
  | unknown => exact Or.inr (Or.inr ⟨hposition, rfl, rfl⟩)
  | null | bool _ | int _ | float _ | text _ => exact Or.inl ⟨hposition, rfl, rfl⟩

theorem insert_eq_ok_iff_tryInsert {c c' : Conditions} {position : Nat} {value : Argument} :
    c.insert position value = .ok c' ↔ c.tryInsert position value = (.ok (), c') := by
  unfold insert
  rcases c.tryInsert position value with ⟨e | ⟨⟩, after⟩
  · exact ⟨nofun, nofun⟩
  · simp

theorem insert_eq_error_iff_tryInsert {c : Conditions} {position : Nat} {value : Argument}
    {e : ConditionError} :
    c.insert position value = .error e ↔ (c.tryInsert position value).1 = .error e := by
  unfold insert
  rcases c.tryInsert position value with ⟨e | ⟨⟩, after⟩
  · simp
  · exact ⟨nofun, nofun⟩

/-- A condition is put in if its position counts from 1 and its value is known. -/
theorem insert_eq_ok_iff {c c' : Conditions} {position : Nat} {value : Argument} :
    c.insert position value = .ok c' ↔
      position ≠ 0 ∧ value.isKnown = true ∧ c' = ⟨put position value c.entries⟩ := by
  rw [insert_eq_ok_iff_tryInsert]
  rcases c.tryInsert_cases position value with
    ⟨hposition, hknown, htry⟩ | ⟨hposition, htry⟩ | ⟨-, rfl, htry⟩
  · rw [htry]
    simp [hposition, hknown, eq_comm]
  · rw [htry]
    exact iff_of_false nofun fun h => h.1 hposition
  · rw [htry]
    exact iff_of_false nofun fun h => Bool.noConfusion h.2.1

/-! ### Entries as written -/

/-- The position that the key of an entry stands for. -/
def writtenPosition? (entry : String × Datum) : Option Nat :=
  position? (trim entry.1.toList)

/-- The literal of an entry. -/
def writtenLiteral? (entry : String × Datum) : Option Argument :=
  Argument.ofToml? entry.2

/-- An entry that is accepted names a position and a literal, and these are inserted. -/
theorem insertWritten_eq_ok {c c' : Conditions} {entry : String × Datum}
    (h : c.insertWritten entry = .ok c') :
    ∃ position literal, writtenPosition? entry = some position ∧
      writtenLiteral? entry = some literal ∧ c.insert position literal = .ok c' := by
  unfold insertWritten at h
  split at h
  · cases h
  · rename_i position hposition
    split at h
    · cases h
    · rename_i literal hliteral
      exact ⟨position, literal, hposition, hliteral, h⟩

/-- The literal of the last entry that names a position. -/
def lastWritten? (entries : List (String × Datum)) (position : Nat) : Option Argument :=
  (entries.reverse.find? (writtenPosition? · == some position)).bind writtenLiteral?

/-- One more entry in front counts only where no later one names its position. -/
theorem lastWritten?_cons {entry : String × Datum} {rest : List (String × Datum)}
    {position : Nat} {literal : Argument} (hposition : writtenPosition? entry = some position)
    (hliteral : writtenLiteral? entry = some literal)
    (hrest : ∀ other ∈ rest, (writtenLiteral? other).isSome) (q : Nat) :
    lastWritten? (entry :: rest) q =
      (lastWritten? rest q).or (if q = position then some literal else none) := by
  unfold lastWritten?
  rw [List.reverse_cons, List.find?_append]
  cases hfind : rest.reverse.find? (writtenPosition? · == some q) with
  | some other =>
    -- The entry that was found has a literal, so the one in front does not count.
    have hmem : other ∈ rest := List.mem_reverse.1 (List.mem_of_find?_eq_some hfind)
    obtain ⟨found, hfound⟩ := Option.isSome_iff_exists.1 (hrest other hmem)
    simp [hfound]
  | none =>
    by_cases hq : q = position
    · simp [hposition, hliteral, hq]
    · simp [hposition, hq, Ne.symm hq]

/-- **A run of insertions.** Every entry that went in names a position and a literal. For each
position the last entry counts, or else what was there before; the positions are those that were
there and those that are named, in strict order. -/
theorem foldlM_insertWritten {entries : List (String × Datum)} {c c' : Conditions}
    (h : entries.foldlM insertWritten c = .ok c') (hsorted : c.positions.Pairwise (· < ·)) :
    (∀ entry ∈ entries, (writtenPosition? entry).isSome ∧ (writtenLiteral? entry).isSome) ∧
      (∀ q, c'.get? q = (lastWritten? entries q).or (c.get? q)) ∧
      (∀ q, q ∈ c'.positions ↔ q ∈ c.positions ∨ some q ∈ entries.map writtenPosition?) ∧
      c'.positions.Pairwise (· < ·) := by
  -- The induction is on the entries, from any conditions in strict order.
  induction entries generalizing c with
  | nil =>
    cases h
    exact ⟨nofun, fun q => rfl, fun q => by simp, hsorted⟩
  | cons entry rest ih =>
    rw [List.foldlM_cons] at h
    cases hstep : c.insertWritten entry with
    | error cause =>
      rw [hstep] at h
      cases h
    | ok next =>
      rw [hstep] at h
      obtain ⟨position, literal, hposition, hliteral, hinsert⟩ := insertWritten_eq_ok hstep
      obtain ⟨-, -, rfl⟩ := insert_eq_ok_iff.1 hinsert
      obtain ⟨hread, hget, hmem, hpairwise⟩ := ih h (pairwise_put hsorted position literal)
      refine ⟨List.forall_mem_cons.2 ⟨by simp [hposition, hliteral], hread⟩, fun q => ?_,
        fun q => ?_, hpairwise⟩
      · have hput : Conditions.get? ⟨put position literal c.entries⟩ q =
            if q = position then some literal else c.get? q :=
          lookup_put position q literal c.entries
        rw [hget, hput,
          lastWritten?_cons hposition hliteral (fun other hother => (hread other hother).2)]
        by_cases hq : q = position <;> simp [hq]
      · have hput : q ∈ Conditions.positions ⟨put position literal c.entries⟩ ↔
            q = position ∨ q ∈ c.positions :=
          mem_map_put_iff position q literal c.entries
        rw [hmem, hput, List.map_cons, List.mem_cons, hposition, Option.some_inj]
        constructor
        · rintro ((hq | hq) | hq)
          · exact Or.inr (Or.inl hq)
          · exact Or.inl hq
          · exact Or.inr (Or.inr hq)
        · rintro (hq | hq | hq)
          · exact Or.inl (Or.inr hq)
          · exact Or.inl (Or.inl hq)
          · exact Or.inr hq

/-! ### Tables -/

/-- No entry of the table is lost: its literal stands at its position, and there are as many
conditions as entries. -/
structure Keeps (c : Conditions) (entries : List (String × Datum)) : Prop where
  holds : ∀ entry ∈ entries, ∃ position literal, writtenPosition? entry = some position ∧
    writtenLiteral? entry = some literal ∧ c.get? position = some literal
  length_eq : c.entries.length = entries.length

section

variable {entries : List (String × Datum)} {c : Conditions} (h : ofTable entries = .ok c)

include h

/-- Of the entries for one position that with the last key counts. -/
theorem get?_ofTable (position : Nat) :
    c.get? position = lastWritten? (Datum.sortByKey entries) position := by
  have hget := (foldlM_insertWritten h List.Pairwise.nil).2.1 position
  rw [hget]
  exact Option.or_none

theorem isSome_of_mem_ofTable {entry : String × Datum} (hentry : entry ∈ entries) :
    (writtenPosition? entry).isSome ∧ (writtenLiteral? entry).isSome :=
  (foldlM_insertWritten h List.Pairwise.nil).1 entry
    ((Datum.sortByKey_perm entries).mem_iff.2 hentry)

theorem nodup_positions_ofTable : c.positions.Nodup :=
  (foldlM_insertWritten h List.Pairwise.nil).2.2.2.imp fun hlt => Nat.ne_of_lt hlt

/-- The positions of the conditions are those that the keys name. -/
theorem mem_positions_ofTable_iff (position : Option Nat) :
    position ∈ c.positions.map some ↔ position ∈ entries.map writtenPosition? := by
  have hmem := (foldlM_insertWritten h List.Pairwise.nil).2.2.1
  have hperm := (Datum.sortByKey_perm entries).map writtenPosition?
  cases position with
  | some q =>
    rw [List.mem_map_of_injective (Option.some_injective _), hmem, hperm.mem_iff]
    exact or_iff_right List.not_mem_nil
  | none =>
    have hnone : none ∉ entries.map writtenPosition? := by
      intro hmem
      obtain ⟨entry, hentry, heq⟩ := List.mem_map.1 hmem
      have hsome := (isSome_of_mem_ofTable h hentry).1
      rw [heq] at hsome
      exact Bool.false_ne_true hsome
    simp [hnone]

/-- There are as many conditions as entries exactly if the keys name different positions. -/
theorem length_ofTable_eq_iff :
    c.entries.length = entries.length ↔ (entries.map writtenPosition?).Nodup := by
  have hnodup : (c.positions.map some).Nodup :=
    (nodup_positions_ofTable h).map (Option.some_injective _)
  have hlength : (c.positions.map some).length = c.entries.length := by
    rw [List.length_map, positions, List.length_map]
  constructor
  · -- The conditions are as many as the keys and at different positions, so no key is left over.
    intro heq
    have hsubperm : (c.positions.map some).Subperm (entries.map writtenPosition?) :=
      hnodup.subperm fun q hq => (mem_positions_ofTable_iff h q).1 hq
    have hle : (entries.map writtenPosition?).length ≤ (c.positions.map some).length := by
      rw [hlength, List.length_map]
      exact Nat.le_of_eq heq.symm
    exact (hsubperm.perm_of_length_le hle).nodup_iff.1 hnodup
  · intro hdistinct
    have hperm : (c.positions.map some).Perm (entries.map writtenPosition?) :=
      (List.perm_ext_iff_of_nodup hnodup hdistinct).2 (mem_positions_ofTable_iff h)
    rw [← hlength, hperm.length_eq, List.length_map]

/-- No entry of a table is lost exactly if its keys name different positions. -/
theorem keeps_iff : c.Keeps entries ↔ (entries.map writtenPosition?).Nodup := by
  refine ⟨fun hkeeps => (length_ofTable_eq_iff h).1 hkeeps.length_eq, fun hdistinct =>
    ⟨fun entry hentry => ?_, (length_ofTable_eq_iff h).2 hdistinct⟩⟩
  obtain ⟨hsomePosition, hsomeLiteral⟩ := isSome_of_mem_ofTable h hentry
  obtain ⟨position, hposition⟩ := Option.isSome_iff_exists.1 hsomePosition
  obtain ⟨literal, hliteral⟩ := Option.isSome_iff_exists.1 hsomeLiteral
  refine ⟨position, literal, hposition, hliteral, ?_⟩
  -- The entry that counts for the position is this one, for there is no other.
  have hmem : entry ∈ (Datum.sortByKey entries).reverse :=
    List.mem_reverse.2 ((Datum.sortByKey_perm entries).mem_iff.2 hentry)
  rw [get?_ofTable h, lastWritten?]
  cases hfind : (Datum.sortByKey entries).reverse.find? (writtenPosition? · == some position) with
  | none =>
    have hno := List.find?_eq_none.1 hfind entry hmem
    simp [hposition] at hno
  | some other =>
    have hother : other ∈ entries :=
      (Datum.sortByKey_perm entries).mem_iff.1
        (List.mem_reverse.1 (List.mem_of_find?_eq_some hfind))
    have hsame : writtenPosition? other = writtenPosition? entry := by
      rw [hposition]
      simpa using List.find?_some hfind
    obtain rfl := List.inj_on_of_nodup_map hdistinct hother hentry hsame
    exact hliteral

end

end Conditions

end CallPolicy
