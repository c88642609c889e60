import CallPolicy.Proofs.Text.Recase

namespace CallPolicy.Text

/-!
# Texts in lower case

* `isSettled` — the characters that lower-casing keeps, wherever they stand; it makes no others.
* `lower_lower` — so lower-casing a second time changes nothing.
* `eq_of_lower_eq_of_infix` — a part of a text is shorter in lower case than the whole.
-/

/-! ### Characters in lower case -/

/-- Lower-casing keeps the character, wherever it stands. -/
def isSettled (c : Char) : Bool :=
  c != 'Σ' && c != 'İ' && lowerChar c == c

theorem isSettled_iff (c : Char) :
    isSettled c = true ↔ (c ≠ 'Σ' ∧ c ≠ 'İ') ∧ lowerChar c = c := by
  simp [isSettled]

/-- The code points of a run. -/
def CaseRun.points (run : CaseRun) : List Nat :=
  (List.range ((run.last - run.first) / run.step + 1)).map fun k => run.first + run.step * k

theorem CaseRun.mem_points {run : CaseRun} {n : Nat} (h : run.covers n = true) :
    n ∈ run.points := by
  simp only [CaseRun.covers, Bool.and_eq_true, beq_iff_eq, decide_eq_true_eq] at h
  obtain ⟨⟨hfirst, hlast⟩, hstep⟩ := h
  have hplace : run.step * ((n - run.first) / run.step) = n - run.first := by
    simpa [hstep] using Nat.div_add_mod (n - run.first) run.step
  refine List.mem_map.2 ⟨(n - run.first) / run.step, ?_, by omega⟩
  rw [List.mem_range, Nat.lt_succ_iff]
  exact Nat.div_le_div_right (by omega)

/-- A set of numbers as the bits of one number, so that it is quick to look into. -/
def bitsOf (ns : List Nat) : Nat :=
  ns.foldr (fun n bits => 2 ^ n ||| bits) 0

theorem testBit_bitsOf {ns : List Nat} {n : Nat} (h : n ∈ ns) : (bitsOf ns).testBit n = true := by
  induction ns with
  | nil => cases h
  | cons m rest ih =>
    show (2 ^ m ||| bitsOf rest).testBit n = true
    rw [Nat.testBit_or, Bool.or_eq_true]
    rcases List.mem_cons.1 h with rfl | h
    · exact Or.inl Nat.testBit_two_pow_self
    · exact Or.inr (ih h)

/-- The code points of all runs and of the capital I with a dot, which stands in no run. -/
def capitals : Nat :=
  lowerRuns.foldr (fun run bits => bitsOf run.points ||| bits) (2 ^ 0x130)

theorem testBit_capitals {run : CaseRun} {n : Nat} (hrun : run ∈ lowerRuns)
    (h : run.covers n = true) : capitals.testBit n = true := by
  unfold capitals
  generalize lowerRuns = runs at hrun ⊢
  induction runs with
  | nil => cases hrun
  | cons first rest ih =>
    rw [List.foldr_cons, Nat.testBit_or, Bool.or_eq_true]
    rcases List.mem_cons.1 hrun with rfl | hrun
    · exact Or.inl (testBit_bitsOf (CaseRun.mem_points h))
    · exact Or.inr (ih hrun)

theorem testBit_capitals_dotted : capitals.testBit 'İ'.toNat = true := by decide +kernel

/-- No run leads to a code point that a run starts from. -/
theorem testBit_capitals_of_mem_points : ∀ run ∈ lowerRuns, ∀ n ∈ run.points,
    capitals.testBit (n + run.shift).toNat = false := by
  decide +kernel

theorem lowerChar_of_not_covers {c : Char} (hascii : ¬ c.toNat < 0x80)
    (h : ∀ run ∈ lowerRuns, run.covers c.toNat = false) : lowerChar c = c := by
  have hnone : lowerRuns.find? (·.covers c.toNat) = none :=
    List.find?_eq_none.2 fun run hrun => by simp [h run hrun]
  rw [lowerChar, if_neg hascii, hnone]

theorem exists_run_sigma : ∃ run ∈ lowerRuns, run.covers 'Σ'.toNat = true := by
  decide +kernel

theorem isSettled_lowerChar {c : Char} (hdotted : c ≠ 'İ') : isSettled (lowerChar c) = true := by
  by_cases hascii : c.toNat < 0x80
  · -- The capital sigma and the dotted I are not ASCII, and `toLower` keeps them apart.
    have hsigma : c ≠ 'Σ' := by rintro rfl; exact absurd hascii (by decide)
    have hlower : lowerChar c = c.toLower := by rw [lowerChar, if_pos hascii]
    rw [isSettled_iff, hlower, lowerChar_toLower, hlower]
    refine ⟨⟨?_, ?_⟩, rfl⟩
    · rwa [Ne, toLower_eq_iff rfl]
    · rwa [Ne, toLower_eq_iff rfl]
  · cases hfind : lowerRuns.find? (·.covers c.toNat) with
    | none =>
      have hc : lowerChar c = c := by rw [lowerChar, if_neg hascii, hfind]
      rw [isSettled_iff, hc]
      refine ⟨⟨?_, hdotted⟩, hc⟩
      rintro rfl
      obtain ⟨run, hrun, hcovers⟩ := exists_run_sigma
      exact List.find?_eq_none.1 hfind run hrun hcovers
    | some run =>
      have hcovers : run.covers c.toNat = true := by simpa using List.find?_some hfind
      have hrun : run ∈ lowerRuns := List.mem_of_find?_eq_some hfind
      have hc : lowerChar c = Char.ofNat (c.toNat + run.shift).toNat := by
        rw [lowerChar, if_neg hascii, hfind]
      rw [hc]
      rcases toNat_ofNat_of_covers (makesNoMarks_of_mem_lowerRuns run hrun) hcovers with
        hletter | ⟨hbeyond, hchar⟩
      · rw [hletter]
        rfl
      · have hfree := testBit_capitals_of_mem_points run hrun _ (CaseRun.mem_points hcovers)
        rw [← hchar] at hfree
        have hnone : ∀ other ∈ lowerRuns,
            other.covers (Char.ofNat (c.toNat + run.shift).toNat).toNat = false := by
          intro other hother
          rw [← Bool.not_eq_true]
          intro hcovers'
          rw [testBit_capitals hother hcovers'] at hfree
          cases hfree
        have hkept := lowerChar_of_not_covers (by rw [hchar]; omega) hnone
        refine (isSettled_iff _).2 ⟨⟨fun hsigma => ?_, fun hdotted => ?_⟩, hkept⟩
        · obtain ⟨other, hother, hcovers'⟩ := exists_run_sigma
          rw [← hsigma, hnone other hother] at hcovers'
          cases hcovers'
        · rw [hdotted, testBit_capitals_dotted] at hfree
          cases hfree

theorem lowerAt_of_isSettled {c : Char} (h : isSettled c = true) (before after : List Char) :
    lowerAt before c after = [c] := by
  obtain ⟨⟨hsigma, hdotted⟩, hc⟩ := (isSettled_iff c).1 h
  rw [lowerAt, if_neg hsigma, if_neg hdotted, hc]

/-- The forms of the two characters that are special. -/
def specialForms : List Char :=
  ['ς', 'σ', 'i', '\u0307']

theorem mem_lowerAt_cases {before after : List Char} {c d : Char} (h : d ∈ lowerAt before c after) :
    d ∈ specialForms ∨ (c ≠ 'İ' ∧ d = lowerChar c) := by
  unfold lowerAt at h
  unfold specialForms
  split at h
  · split at h
    · exact Or.inl (by simp [List.mem_singleton.1 h])
    · exact Or.inl (by simp [List.mem_singleton.1 h])
  · split at h
    · exact Or.inl (List.mem_cons_of_mem _ (List.mem_cons_of_mem _ h))
    · rename_i hdotted
      exact Or.inr ⟨hdotted, List.mem_singleton.1 h⟩

theorem isSettled_of_mem_lowerAt {before after : List Char} {c d : Char}
    (h : d ∈ lowerAt before c after) : isSettled d = true := by
  have hspecial : specialForms.all isSettled = true := by decide +kernel
  rcases mem_lowerAt_cases h with hd | ⟨hdotted, rfl⟩
  · exact List.all_eq_true.1 hspecial d hd
  · exact isSettled_lowerChar hdotted

/-! ### Texts in lower case -/

theorem isSettled_of_mem_lowerAfter {before cs : List Char} {d : Char}
    (h : d ∈ lowerAfter before cs) : isSettled d = true := by
  induction cs generalizing before with
  | nil => cases h
  | cons c rest ih =>
    rw [lowerAfter, List.mem_append] at h
    exact h.elim isSettled_of_mem_lowerAt ih

theorem lowerAfter_of_isSettled {cs : List Char} (h : ∀ c ∈ cs, isSettled c = true)
    (before : List Char) : lowerAfter before cs = cs := by
  induction cs generalizing before with
  | nil => rfl
  | cons c rest ih =>
    rw [List.forall_mem_cons] at h
    rw [lowerAfter, lowerAt_of_isSettled h.1, ih h.2, List.singleton_append]

theorem lower_lower (cs : List Char) : lower (lower cs) = lower cs :=
  lowerAfter_of_isSettled (fun _ hc => isSettled_of_mem_lowerAfter hc) []

theorem length_lowerAt (before : List Char) (c : Char) (after : List Char) :
    (lowerAt before c after).length = 1 + [c].count 'İ' := by
  unfold lowerAt
  split
  · rename_i hsigma
    subst hsigma
    split <;> rfl
  · split
    · rename_i hdotted
      subst hdotted
      rfl
    · rename_i hdotted
      rw [List.count_singleton, if_neg (by simpa using hdotted)]
      rfl

/-- Only the capital I with a dot takes more room. -/
theorem length_lowerAfter (before cs : List Char) :
    (lowerAfter before cs).length = cs.length + cs.count 'İ' := by
  induction cs generalizing before with
  | nil => rfl
  | cons c rest ih =>
    have hcount : (c :: rest).count 'İ' = [c].count 'İ' + rest.count 'İ' := by
      rw [← List.count_append, List.singleton_append]
    rw [lowerAfter, List.length_append, length_lowerAt, ih, hcount, List.length_cons]
    omega

theorem eq_of_lower_eq_of_infix {part cs : List Char} (hpart : part <:+: cs)
    (h : lower part = lower cs) : part = cs := by
  have hlength := congrArg List.length h
  rw [lower, lower, length_lowerAfter, length_lowerAfter] at hlength
  have hcount : part.count 'İ' ≤ cs.count 'İ' := hpart.sublist.count_le 'İ'
  exact hpart.eq_of_length_le (by omega)

end CallPolicy.Text
