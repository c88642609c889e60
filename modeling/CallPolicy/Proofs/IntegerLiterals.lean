import CallPolicy.Proofs.Agreement
import CallPolicy.Proofs.Json.IntegerLiteral
import CallPolicy.Toml.Scalar

namespace CallPolicy

/-!
# Integers that agree

An integer that is read as itself agrees with the same integer only. The others are read as doubles:
integers that are rounded alike agree with each other, and with the floats of rules.

* `Json.IntegerLiteral.Confused` — two literals that agree although they are not the same integer,
  or the other way round.
* `Json.IntegerLiteral.agrees_iff`, `Json.IntegerLiteral.agrees_int_iff`,
  `Json.IntegerLiteral.agrees_float_iff` — what a literal agrees with.
* `Toml.inRange_of_scalarOf?` — the integers of rules have 64 bits.
* `integer_literals_agree` — which literals of call sites and rules agree.
-/

theorem ofInt_eq_iff {m n : Int} (hm : InRange m) (hn : InRange n) :
    Int64.ofInt m = Int64.ofInt n ↔ m = n := by
  rw [inRange_iff] at hm hn
  constructor
  · intro h
    have hvalue := congrArg Int64.toInt h
    rwa [Int64.toInt_ofInt_of_le (by omega) (by omega),
      Int64.toInt_ofInt_of_le (by omega) (by omega)] at hvalue
  · rintro rfl
    rfl

namespace Json.IntegerLiteral

/-- Zero with a sign and without, or two integers that are rounded to one double. -/
def Confused (l l' : IntegerLiteral) : Prop :=
  l.value = 0 ∧ l'.value = 0 ∧ l.negative ≠ l'.negative ∨
    l.value ≠ l'.value ∧ ¬ l.Fits ∧ ¬ l'.Fits ∧
      ∃ x x', l.double? = some x ∧ l'.double? = some x' ∧ (x == x') = true

/-- What a literal is read as. -/
theorem read_cases {l : IntegerLiteral} {depth : Nat} {a : Argument} (h : l.read depth = some a) :
    l.Fits ∧ a = .int (Int64.ofInt l.value) ∨
      ¬ l.Fits ∧ ∃ x, l.double? = some x ∧ a = .float x := by
  by_cases hl : l.Fits
  · rw [read_of_fits l hl] at h
    exact Or.inl ⟨hl, (Option.some.inj h).symm⟩
  · rw [read_of_not_fits l hl, Option.map_eq_some_iff] at h
    obtain ⟨x, hx, rfl⟩ := h
    exact Or.inr ⟨hl, x, hx, rfl⟩

theorem isMinusZero_of_not_fits {l : IntegerLiteral} (hl : ¬ l.Fits) (hrange : InRange l.value) :
    l.IsMinusZero := by
  by_contra hzero
  exact hl ⟨hrange, hzero⟩

theorem not_confused_of_fits {l l' : IntegerLiteral} (hl : l.Fits) (hl' : l'.Fits) :
    ¬ Confused l l' := by
  rintro (⟨hzero, hzero', hnegative⟩ | ⟨-, hno, -⟩)
  · have hplus : l.negative = false := Bool.eq_false_iff.2 fun h => hl.2 ⟨h, hzero⟩
    have hplus' : l'.negative = false := Bool.eq_false_iff.2 fun h => hl'.2 ⟨h, hzero'⟩
    exact hnegative (hplus.trans hplus'.symm)
  · exact hno hl

/-- A literal that fits is confused with minus zero only. -/
theorem confused_iff_of_fits {l l' : IntegerLiteral} (hl : l.Fits) (hl' : ¬ l'.Fits) :
    Confused l l' ↔ l.value = l'.value := by
  constructor
  · rintro (⟨hzero, hzero', -⟩ | ⟨-, hno, -⟩)
    · rw [hzero, hzero']
    · exact absurd hl hno
  · intro hvalue
    have hminus := isMinusZero_of_not_fits hl' (hvalue ▸ hl.1)
    have hzero : l.value = 0 := hvalue.trans hminus.2
    refine Or.inl ⟨hzero, hminus.2, fun hnegative => ?_⟩
    exact hl.2 ⟨hnegative.trans hminus.1, hzero⟩

theorem confused_symm {l l' : IntegerLiteral} (h : Confused l l') : Confused l' l := by
  rcases h with ⟨hzero, hzero', hnegative⟩ | ⟨hvalue, hl, hl', x, x', hx, hx', hsame⟩
  · exact Or.inl ⟨hzero', hzero, Ne.symm hnegative⟩
  · refine Or.inr ⟨Ne.symm hvalue, hl', hl, x', x, hx', hx, ?_⟩
    exact Argument.agrees_symm (a := .float x) (b := .float x') hsame

/-- Literals agree exactly if they are the same integer, unless they are confused. -/
theorem agrees_iff {l l' : IntegerLiteral} {depth depth' : Nat} {a a' : Argument}
    (ha : l.read depth = some a) (ha' : l'.read depth' = some a') :
    (a.agrees a' = true ↔ l.value = l'.value) ↔ ¬ Confused l l' := by
  rcases read_cases ha with ⟨hl, rfl⟩ | ⟨hl, x, hx, rfl⟩ <;>
    rcases read_cases ha' with ⟨hl', rfl⟩ | ⟨hl', x', hx', rfl⟩
  · have hagrees : (Argument.int (Int64.ofInt l.value)).agrees (.int (Int64.ofInt l'.value)) =
        true ↔ l.value = l'.value := by
      show (Int64.ofInt l.value == Int64.ofInt l'.value) = true ↔ _
      rw [beq_iff_eq, ofInt_eq_iff hl.1 hl'.1]
    exact iff_of_true hagrees (not_confused_of_fits hl hl')
  · rw [confused_iff_of_fits hl hl']
    simp [Argument.agrees]
  · have hsymm : Confused l l' ↔ l.value = l'.value := by
      rw [eq_comm, ← confused_iff_of_fits hl' hl]
      exact ⟨confused_symm, confused_symm⟩
    rw [hsymm]
    simp [Argument.agrees]
  · show ((x == x') = true ↔ l.value = l'.value) ↔ _
    by_cases hvalue : l.value = l'.value
    · have hsame : x = x' := Option.some.inj (hx.symm.trans ((double?_eq hl hl' hvalue).trans hx'))
      have hself : (x == x') = true := hsame ▸ float_beq_self (isNaN_of_double? hl hx)
      refine iff_of_true (iff_of_true hself hvalue) ?_
      rintro (⟨-, -, hnegative⟩ | ⟨hno, -⟩)
      · exact hnegative (by rw [negative_of_not_fits l hl, negative_of_not_fits l' hl', hvalue])
      · exact hno hvalue
    · have hconfused : Confused l l' ↔ (x == x') = true := by
        constructor
        · rintro (⟨hzero, hzero', -⟩ | ⟨-, -, -, y, y', hy, hy', hsame⟩)
          · exact absurd (hzero.trans hzero'.symm) hvalue
          · obtain rfl := Option.some.inj (hx.symm.trans hy)
            obtain rfl := Option.some.inj (hx'.symm.trans hy')
            exact hsame
        · exact fun hsame => Or.inr ⟨hvalue, hl, hl', x, x', hx, hx', hsame⟩
      rw [hconfused]
      simp [hvalue]

/-- A literal agrees with an integer of a rule exactly if it is the same, unless it is minus
zero. -/
theorem agrees_int_iff {l : IntegerLiteral} {depth : Nat} {a : Argument}
    (ha : l.read depth = some a) {n : Int} (hn : InRange n) :
    (a.agrees (.int (Int64.ofInt n)) = true ↔ l.value = n) ↔ ¬ (l.IsMinusZero ∧ n = 0) := by
  rcases read_cases ha with ⟨hl, rfl⟩ | ⟨hl, x, hx, rfl⟩
  · have hagrees : (Argument.int (Int64.ofInt l.value)).agrees (.int (Int64.ofInt n)) = true ↔
        l.value = n := by
      show (Int64.ofInt l.value == Int64.ofInt n) = true ↔ _
      rw [beq_iff_eq, ofInt_eq_iff hl.1 hn]
    exact iff_of_true hagrees fun h => hl.2 h.1
  · have hminus : l.IsMinusZero ∧ n = 0 ↔ l.value = n := by
      constructor
      · rintro ⟨⟨-, hzero⟩, rfl⟩
        exact hzero
      · intro hvalue
        have hzero := isMinusZero_of_not_fits hl (hvalue ▸ hn)
        exact ⟨hzero, hvalue.symm.trans hzero.2⟩
    rw [hminus]
    simp [Argument.agrees]

/-- A literal agrees with a float of a rule exactly if it does not fit and is rounded to it. -/
theorem agrees_float_iff {l : IntegerLiteral} {depth : Nat} {a : Argument}
    (ha : l.read depth = some a) (x : Float) :
    a.agrees (.float x) = true ↔ ¬ l.Fits ∧ ∃ y, l.double? = some y ∧ (y == x) = true := by
  rcases read_cases ha with ⟨hl, rfl⟩ | ⟨hl, y, hy, rfl⟩
  · exact iff_of_false nofun fun h => h.1 hl
  · constructor
    · exact fun hsame => ⟨hl, y, hy, hsame⟩
    · rintro ⟨-, z, hz, hsame⟩
      obtain rfl := Option.some.inj (hy.symm.trans hz)
      exact hsame

end Json.IntegerLiteral

/-! ### Integers of rules -/

namespace Toml

theorem inRange_of_inRange? {m n : Int} (h : inRange? m = some n) : InRange n := by
  unfold inRange? at h
  split at h
  · rename_i hrange
    exact Option.some.inj h ▸ hrange
  · cases h

theorem inRange_of_based? {base : Nat} {isDigit : Char → Bool} {cs : List Char} {n : Int}
    (h : based? base isDigit cs = some n) : InRange n := by
  obtain ⟨digits, -, hdigits⟩ := Option.bind_eq_some_iff.1 h
  exact inRange_of_inRange? hdigits

/-- An integer of a rule that 64 bits do not hold is refused. -/
theorem inRange_of_integer? {cs : List Char} {n : Int} (h : integer? cs = some n) : InRange n := by
  unfold integer? at h
  split at h
  · exact inRange_of_based? h
  · exact inRange_of_based? h
  · exact inRange_of_based? h
  · obtain ⟨digits, -, hdigits⟩ := Option.bind_eq_some_iff.1 h
    exact inRange_of_inRange? hdigits

theorem inRange_of_scalarOf? {cs : List Char} {n : Int} (h : scalarOf? cs = some (.int n)) :
    InRange n := by
  unfold scalarOf? at h
  split at h
  · cases h
  split at h
  · cases h
  split at h
  case h_1 m hm =>
    cases h
    exact inRange_of_integer? hm
  case h_2 =>
    split at h
    · cases h
    · obtain ⟨moment, -, hmoment⟩ := Option.map_eq_some_iff.1 h
      cases hmoment

end Toml

open Json

/-- **Integers.** A literal that fits 64 bits, and is not minus zero, is read as this integer; any
other is read as a double, where it is finite. So two literals of call sites agree exactly if they
are the same integer, unless one of them is minus zero and the other one zero, or neither fits and
they are rounded alike. A literal agrees with an integer of a rule exactly if it is the same, unless
it is minus zero; and with a float of a rule exactly if it does not fit and is rounded to it. -/
theorem integer_literals_agree (l : IntegerLiteral) (depth : Nat) :
    (l.Fits → l.read depth = some (.int (Int64.ofInt l.value))) ∧
    (¬ l.Fits → l.read depth = l.double?.map .float) ∧
    ∀ a, l.read depth = some a →
      (∀ (l' : IntegerLiteral) (depth' : Nat) (a' : Argument), l'.read depth' = some a' →
        ((a.agrees a' = true ↔ l.value = l'.value) ↔ ¬ l.Confused l')) ∧
      (∀ (text : List Char) (n : Int), Toml.scalarOf? text = some (.int n) →
        ∃ b, Argument.ofToml? (.int n) = some b ∧
          ((b.agrees a = true ↔ n = l.value) ↔ ¬ (l.IsMinusZero ∧ n = 0))) ∧
      ∀ (text : List Char) (x : Float), Toml.scalarOf? text = some (.float x) →
        ∃ b, Argument.ofToml? (.float x) = some b ∧
          (b.agrees a = true ↔ ¬ l.Fits ∧ ∃ y, l.double? = some y ∧ (y == x) = true) := by
  have hcomm (a b : Argument) : b.agrees a = true ↔ a.agrees b = true :=
    ⟨Argument.agrees_symm, Argument.agrees_symm⟩
  refine ⟨fun h => l.read_of_fits h depth, fun h => l.read_of_not_fits h depth, fun a ha =>
    ⟨fun l' depth' a' ha' => IntegerLiteral.agrees_iff ha ha', fun text n hn => ?_,
      fun text x _ => ?_⟩⟩
  · refine ⟨.int (Int64.ofInt n), rfl, ?_⟩
    rw [hcomm, eq_comm (a := n)]
    exact IntegerLiteral.agrees_int_iff ha (Toml.inRange_of_scalarOf? hn)
  · refine ⟨.float x, rfl, ?_⟩
    rw [hcomm]
    exact IntegerLiteral.agrees_float_iff ha x

/-- Two integers that one double would be nearest to. -/
def unroundedPair : IntegerLiteral × IntegerLiteral :=
  (⟨false, "9007199254740992".toList, List.all_eq_true.1 (by decide), by decide⟩,
    ⟨false, "9007199254740993".toList, List.all_eq_true.1 (by decide), by decide⟩)

/-- Two integers beyond those of 64 bits that are rounded to one double. -/
def roundedPair : IntegerLiteral × IntegerLiteral :=
  (⟨false, "9223372036854775808".toList, List.all_eq_true.1 (by decide), by decide⟩,
    ⟨false, "9223372036854775809".toList, List.all_eq_true.1 (by decide), by decide⟩)

/-- Zero with a sign and without. -/
def zeroPair : IntegerLiteral × IntegerLiteral :=
  (⟨true, ['0'], List.all_eq_true.1 rfl, rfl⟩, ⟨false, ['0'], List.all_eq_true.1 rfl, rfl⟩)

/-- Integers of 64 bits are told apart where doubles would not be. They agree with the same integer
of a rule, and with no float. -/
theorem integer_literals_agree_unrounded :
    ∃ a a' b, unroundedPair.1.read 2 = some a ∧ unroundedPair.2.read 2 = some a' ∧
      Toml.scalarOf? "+9_007_199_254_740_992".toList = some (.int 9007199254740992) ∧
      Argument.ofToml? (.int 9007199254740992) = some b ∧
      a.agrees a' = false ∧ b.agrees a = true ∧
      ∀ text x, Toml.scalarOf? text = some (.float x) → ∃ c, Argument.ofToml? (.float x) = some c ∧
        c.agrees a = false := by
  have hfits : unroundedPair.1.Fits := by decide +kernel
  have hfits' : unroundedPair.2.Fits := by decide +kernel
  have htoml : Toml.scalarOf? "+9_007_199_254_740_992".toList = some (.int 9007199254740992) := by
    rfl
  have hread := (integer_literals_agree unroundedPair.1 2).1 hfits
  have hread' := (integer_literals_agree unroundedPair.2 2).1 hfits'
  obtain ⟨hliterals, hintegers, hfloats⟩ := (integer_literals_agree unroundedPair.1 2).2.2 _ hread
  obtain ⟨b, hb, hagrees⟩ := hintegers _ _ htoml
  refine ⟨_, _, b, hread, hread', htoml, hb, ?_, ?_, fun text x hx => ?_⟩
  · have hvalue : unroundedPair.1.value ≠ unroundedPair.2.value := by decide +kernel
    exact Bool.eq_false_iff.2 fun h =>
      hvalue (((hliterals _ 2 _ hread').2 (IntegerLiteral.not_confused_of_fits hfits hfits')).1 h)
  · exact (hagrees.2 (by decide +kernel)).2 (by decide +kernel)
  · obtain ⟨c, hc, hfloat⟩ := hfloats text x hx
    exact ⟨c, hc, Bool.eq_false_iff.2 fun h => (hfloat.1 h).1 hfits⟩

/-- Two integers beyond those of 64 bits agree, and with a float of a rule, although they are not
the same; and zero does not agree with zero. -/
theorem not_integer_literals_agree :
    (∃ a a', roundedPair.1.read 2 = some a ∧ roundedPair.2.read 2 = some a' ∧
      a.agrees a' = true ∧ roundedPair.1.value ≠ roundedPair.2.value ∧
      ∃ x b, Toml.scalarOf? "9223372036854775808.0".toList = some (.float x) ∧
        Argument.ofToml? (.float x) = some b ∧ b.agrees a' = true) ∧
    ∃ a a', zeroPair.1.read 2 = some a ∧ zeroPair.2.read 2 = some a' ∧
      a.agrees a' = false ∧ zeroPair.1.value = zeroPair.2.value := by
  have htoml : Toml.scalarOf? "9223372036854775808.0".toList =
      some (.float 9223372036854775808.0) := by
    rfl
  constructor
  · exact ⟨.float 9223372036854775808.0, .float 9223372036854775808.0, by decide +kernel,
      by decide +kernel, by decide +kernel, by decide +kernel, _, _, htoml, rfl, by decide +kernel⟩
  · exact ⟨.float (-0.0), .int 0, by decide +kernel, by decide +kernel, rfl, by decide +kernel⟩

end CallPolicy
