import CallPolicy.Json.Printer
import CallPolicy.Proofs.Json.Brackets
import Mathlib.Data.List.Basic
import Mathlib.Data.List.TakeWhile

namespace CallPolicy.Json

/-!
# Texts of one token

Strings, words and integers are written as one token each, and are read as the token that was
written. A word or a number ends only where the next character cannot belong to it, so this holds in
front of texts that break it off.

* `Breaks` — a text that does not go on with a word or number in front of it.
* `IsTokenText` — a text that is one token, whatever breaks it off.
* `tokens?_append_of_isSpace` — white space is no token.
* `isTokenText_quote` — a string is read as the string that was quoted.
* `isTokenText_int`, `Numeral.datum_ofInt` — an integer of 64 bits, with a sign or without, is read
  as itself.
-/

/-! ### Where words and numbers end -/

/-- No word and no number goes on with the character. -/
def isBreak (c : Char) : Bool :=
  !c.isAlpha && !LexState.isNumberChar c

/-- The text does not go on with a word or number in front of it. -/
def Breaks (cs : List Char) : Prop :=
  ∀ c ∈ cs.head?, isBreak c = true

theorem breaks_nil : Breaks [] :=
  nofun

theorem breaks_cons {c : Char} (h : isBreak c = true) (cs : List Char) : Breaks (c :: cs) := by
  intro d hd
  obtain rfl : c = d := Option.some.inj hd
  exact h

theorem Breaks.append {xs ys : List Char} (hxs : Breaks xs) (hys : Breaks ys) :
    Breaks (xs ++ ys) := by
  cases xs with
  | nil => exact hys
  | cons c rest => exact breaks_cons (hxs c rfl) _

namespace LexState

/-- Outside of strings, a character that breaks ends what was read. -/
theorem step?_of_isBreak {s : LexState} (hs : s.isString = false) {c : Char}
    (hc : isBreak c = true) :
    s.step? c = s.flush? >>= fun ended =>
      (start? c).map fun (next, tokens) => (next, ended ++ tokens) := by
  have hstart : ∀ ended : List Token, (start? c >>= fun p => some (p.1, ended ++ p.2)) =
      (start? c).map fun p => (p.1, ended ++ p.2) := by
    intro ended
    cases start? c <;> rfl
  rw [isBreak, Bool.and_eq_true, Bool.not_eq_true', Bool.not_eq_true'] at hc
  cases s with
  | between =>
    show start? c = (start? c).map fun p => p
    rw [Option.map_id']
  | word letters =>
    show (if c.isAlpha = true then _ else _) = _
    rw [if_neg (Bool.eq_false_iff.1 hc.1)]
    exact bind_congr hstart
  | number chars =>
    show (if isNumberChar c = true then _ else _) = _
    rw [if_neg (Bool.eq_false_iff.1 hc.2)]
    exact bind_congr hstart
  | string str => cases hs

/-- What was read ends in front of a text that breaks it off. -/
theorem run?_of_breaks {s : LexState} (hs : s.isString = false) {cs : List Char} (h : Breaks cs) :
    s.run? cs = s.flush? >>= fun ended => (between.run? cs).map (ended ++ ·) := by
  cases cs with
  | nil =>
    show s.flush? = s.flush? >>= fun ended => some (ended ++ [])
    simp
  | cons c rest =>
    show (s.step? c >>= fun p => p.1.run? rest >>= fun more => some (p.2 ++ more)) =
      s.flush? >>= fun ended =>
        (start? c >>= fun p => p.1.run? rest >>= fun more => some (p.2 ++ more)).map (ended ++ ·)
    rw [step?_of_isBreak hs (h c rfl), bind_assoc]
    refine bind_congr fun ended => ?_
    cases start? c with
    | none => rfl
    | some p =>
      simp only [Option.map_some, Option.bind_eq_bind, Option.bind_some]
      cases p.1.run? rest with
      | none => rfl
      | some more => simp

/-- A character that ends no token. -/
theorem read?_cons {s next : LexState} {c : Char} (h : s.step? c = some (next, []))
    (rest : List Char) : s.read? (c :: rest) = next.read? rest := by
  show (s.step? c >>= fun p => p.1.read? rest >>= fun q => some (q.1, p.2 ++ q.2)) = _
  rw [h]
  show (next.read? rest >>= fun q => some (q.1, q.2)) = _
  cases next.read? rest <;> rfl

/-- A text that ends no token is read on its own. -/
theorem run?_of_read? {s last : LexState} {xs : List Char} (h : s.read? xs = some (last, []))
    (ys : List Char) : s.run? (xs ++ ys) = last.run? ys := by
  rw [run?_append, h]
  exact Option.map_id'

end LexState

open LexState

/-! ### Texts of one token -/

/-- The text is one token, whatever breaks it off. -/
def IsTokenText (cs : List Char) (t : Token) : Prop :=
  ∀ rest, Breaks rest → tokens? (cs ++ rest) = (tokens? rest).map (t :: ·)

/-- A text is one token that ends where the text does. -/
theorem isTokenText_of_read? {cs : List Char} {s : LexState} {t : Token}
    (hread : between.read? cs = some (s, [])) (hs : s.isString = false)
    (hflush : s.flush? = some [t]) : IsTokenText cs t := by
  intro rest hrest
  show between.run? (cs ++ rest) = (between.run? rest).map ([t] ++ ·)
  rw [run?_of_read? hread, run?_of_breaks hs hrest, hflush]
  rfl

theorem isTokenText_null : IsTokenText ['n', 'u', 'l', 'l'] (.scalar .null) :=
  isTokenText_of_read? rfl rfl rfl

theorem isTokenText_true : IsTokenText ['t', 'r', 'u', 'e'] (.scalar (.bool true)) :=
  isTokenText_of_read? rfl rfl rfl

theorem isTokenText_false : IsTokenText ['f', 'a', 'l', 's', 'e'] (.scalar (.bool false)) :=
  isTokenText_of_read? rfl rfl rfl

/-! ### White space -/

theorem tokens?_cons_of_isSpace {c : Char} (hc : isSpace c = true) (cs : List Char) :
    tokens? (c :: cs) = tokens? cs := by
  have hstart : start? c = some (between, []) := if_pos hc
  have hread : between.read? [c] = some (between, []) := by
    show (start? c >>= fun p => some (p.1, p.2 ++ [])) = _
    rw [hstart]
    rfl
  exact run?_of_read? hread cs

/-- White space is no token. -/
theorem tokens?_append_of_isSpace {spaces : List Char} (h : ∀ c ∈ spaces, isSpace c = true)
    (cs : List Char) : tokens? (spaces ++ cs) = tokens? cs := by
  induction spaces with
  | nil => rfl
  | cons c rest ih =>
    rw [List.forall_mem_cons] at h
    rw [List.cons_append, tokens?_cons_of_isSpace h.1, ih h.2]

/-- A line is indented with white space. -/
theorem isSpace_of_mem_lineBreak {layout : Option Nat} {depth : Nat} {c : Char}
    (hc : c ∈ lineBreak layout depth) : isSpace c = true := by
  cases layout with
  | none => cases hc
  | some width =>
    rcases List.mem_cons.1 hc with rfl | hindent
    · rfl
    · rw [List.eq_of_mem_replicate hindent]
      rfl

theorem isBreak_of_isSpace {c : Char} (hc : isSpace c = true) : isBreak c = true := by
  simp only [isSpace, Bool.or_eq_true, beq_iff_eq] at hc
  rcases hc with ((rfl | rfl) | rfl) | rfl <;> rfl

theorem breaks_of_isSpace {spaces : List Char} (h : ∀ c ∈ spaces, isSpace c = true) :
    Breaks spaces :=
  fun c hc => isBreak_of_isSpace (h c (List.mem_of_mem_head? hc))

/-! ### Strings -/

/-- In a string, with the characters read so far, last first. -/
def inString (acc : List Char) : LexState :=
  .string ⟨some acc, none, .plain⟩

theorem hexDigits_of_lt : ∀ n < 32,
    hexDigits 4 n = ['0', '0', Nat.digitChar (n / 16), Nat.digitChar (n % 16)] := by
  decide

theorem hexValue?_digitChar : ∀ d < 16, StringState.hexValue? (Nat.digitChar d) = some d := by
  decide

/-- The code unit of a control character is the character. -/
theorem pushUnit_toNat (acc : List Char) {c : Char} (hc : c.toNat < 32) (mode : StringMode) :
    StringState.pushUnit ⟨some acc, none, mode⟩ c.toNat = ⟨some (c :: acc), none, .plain⟩ := by
  have hhigh : StringState.isHighHalf c.toNat = false := by
    have hlt : ¬ 0xD800 ≤ c.toNat := by omega
    simp [StringState.isHighHalf, hlt]
  have hlow : StringState.isLowHalf c.toNat = false := by
    have hlt : ¬ 0xDC00 ≤ c.toNat := by omega
    simp [StringState.isLowHalf, hlt]
  unfold StringState.pushUnit
  dsimp only
  rw [hhigh, hlow, Char.ofNat_toNat]
  rfl

/-- One more digit of a code unit. -/
theorem step?_hex (str : StringState) {left value d : Nat} (hmode : str.mode = .hex left value)
    (hd : d < 16) :
    (LexState.string str).step? (Nat.digitChar d) =
      some (.string (if left ≤ 1 then str.pushUnit (value * 16 + d)
        else { str with mode := .hex (left - 1) (value * 16 + d) }), []) := by
  have hplain : ¬ (Nat.digitChar d = '"' ∧ str.mode = .plain) := by
    rw [hmode]
    exact nofun
  unfold LexState.step? StringState.step?
  dsimp only
  rw [if_neg hplain, hmode]
  dsimp only
  rw [hexValue?_digitChar d hd]
  rfl

/-- A control character, written as its code unit. -/
theorem read?_codeUnit (acc : List Char) {c : Char} (hc : c.toNat < 32) :
    (inString acc).read? ('\\' :: 'u' :: hexDigits 4 c.toNat) = some (inString (c :: acc), []) := by
  have hhigh : c.toNat / 16 < 16 := by omega
  have hlow : c.toNat % 16 < 16 := by omega
  have hvalue : (0 * 16 + c.toNat / 16) * 16 + c.toNat % 16 = c.toNat := by omega
  have hfirst : (LexState.string ⟨some acc, none, .hex 2 0⟩).step? (Nat.digitChar (c.toNat / 16)) =
      some (.string ⟨some acc, none, .hex 1 (0 * 16 + c.toNat / 16)⟩, []) :=
    step?_hex ⟨some acc, none, .hex 2 0⟩ rfl hhigh
  have hlast := step?_hex ⟨some acc, none, .hex 1 (0 * 16 + c.toNat / 16)⟩ rfl hlow
  rw [if_pos (Nat.le_refl 1), hvalue, pushUnit_toNat acc hc] at hlast
  rw [hexDigits_of_lt c.toNat hc]
  calc (inString acc).read?
          ['\\', 'u', '0', '0', Nat.digitChar (c.toNat / 16), Nat.digitChar (c.toNat % 16)]
      = (LexState.string ⟨some acc, none, .hex 2 0⟩).read?
          [Nat.digitChar (c.toNat / 16), Nat.digitChar (c.toNat % 16)] := by
        rw [read?_cons rfl, read?_cons rfl, read?_cons rfl, read?_cons rfl]
        rfl
    _ = some (inString (c :: acc), []) := by
        rw [read?_cons hfirst, read?_cons hlast]
        rfl

/-- A character of a quoted string is read as itself. -/
theorem read?_escape (acc : List Char) (c : Char) :
    (inString acc).read? (escape c) = some (inString (c :: acc), []) := by
  unfold escape
  split
  case h_8 hquote hescape _ _ _ _ _ =>
    split
    case isTrue hcontrol => exact read?_codeUnit acc hcontrol
    case isFalse hprinted =>
      have hstep : (inString acc).step? c = some (inString (c :: acc), []) := by
        show (if c = '"' ∧ _ then _ else
          ((if c = '\\' then _ else if c.toNat < 0x20 then none else some _).map _)) = _
        rw [if_neg fun h => hquote h.1, if_neg hescape, if_neg hprinted]
        rfl
      rw [read?_cons hstep]
      rfl
  all_goals rfl

/-- The characters of a quoted string are read as they are. -/
theorem run?_flatMap_escape (cs acc rest : List Char) :
    (inString acc).run? (cs.flatMap escape ++ rest) = (inString (cs.reverse ++ acc)).run? rest := by
  induction cs generalizing acc with
  | nil => rfl
  | cons c more ih =>
    rw [List.flatMap_cons, List.append_assoc, run?_of_read? (read?_escape acc c), ih,
      List.reverse_cons, List.append_assoc]
    rfl

/-- A string is read as the string that was quoted. -/
theorem isTokenText_quote (s : String) : IsTokenText (quote s) (.text (some s)) := by
  intro rest _
  have hfinish : String.ofList (s.toList.reverse ++ []).reverse = s := by
    rw [List.append_nil, List.reverse_reverse, String.ofList_toList]
  have hopen : between.read? ['"'] = some (inString [], []) := rfl
  have hquote : quote s ++ rest = ['"'] ++ (s.toList.flatMap escape ++ '"' :: rest) := by
    simp [quote]
  unfold tokens?
  rw [hquote, run?_of_read? hopen, run?_flatMap_escape]
  show (between.run? rest >>= fun more =>
    some ([.text (some (String.ofList (s.toList.reverse ++ []).reverse))] ++ more)) = _
  rw [hfinish]
  cases between.run? rest <;> rfl

/-! ### Digits -/

theorem le_ofDigitChars (ds : List Char) (n : Nat) : n ≤ Nat.ofDigitChars 10 ds n := by
  rw [Nat.ofDigitChars_eq_ofDigitChars_zero]
  have hpos : 0 < 10 ^ ds.length := Nat.pow_pos (by decide)
  calc n ≤ 10 ^ ds.length * n := Nat.le_mul_of_pos_left n hpos
    _ ≤ _ := Nat.le_add_right _ _

/-- Digits are taken in as long as 64 bits hold their value. -/
theorem appendDigits_eq {ds : List Char} {n : Nat} (h : Nat.ofDigitChars 10 ds n ≤ maxWord) :
    appendDigits n ds = (Nat.ofDigitChars 10 ds n, 0) := by
  induction ds generalizing n with
  | nil => rfl
  | cons c rest ih =>
    have hnext : n * 10 + digitValue c = 10 * n + (c.toNat - '0'.toNat) := by
      rw [Nat.mul_comm]
      rfl
    rw [Nat.ofDigitChars_cons, ← hnext] at h ⊢
    have hfits : n * 10 + digitValue c ≤ maxWord := Nat.le_trans (le_ofDigitChars rest _) h
    rw [appendDigits, if_pos hfits, ih h]

/-- No number but zero is written with a zero in front. -/
theorem head?_toDigits_ne {n : Nat} (hn : 0 < n) : (Nat.toDigits 10 n).head? ≠ some '0' := by
  induction n using Nat.base_induction 10 (by decide) with
  | single d hd =>
    rw [Nat.toDigits_of_lt_base hd]
    intro hzero
    exact Nat.ne_of_gt hn (Nat.digitChar_eq_zero.1 (Option.some.inj hzero))
  | digit m d hd hm ih =>
    rw [← Nat.toDigits_append_toDigits (by decide) hm hd, List.head?_append_of_ne_nil _
      Nat.toDigits_ne_nil]
    exact ih hm

/-- What is written of a number is the whole part of one. -/
theorem isWhole_toDigits (n : Nat) : isWhole (Nat.toDigits 10 n) = true := by
  by_cases hn : n = 0
  · subst hn
    rfl
  · have hhead := head?_toDigits_ne (Nat.pos_of_ne_zero hn)
    generalize hdigits : Nat.toDigits 10 n = digits at hhead
    match digits, hdigits with
    | [], hnil => exact absurd hnil Nat.toDigits_ne_nil
    | [_], _ => rfl
    | c :: d :: rest, _ =>
      have hc : c ≠ '0' := fun hc => hhead (congrArg some hc)
      exact bne_iff_ne.2 hc

/-! ### Integers -/

namespace Numeral

/-- What is written of an integer. -/
def ofInt (n : Int) : Numeral where
  negative := decide (n < 0)
  whole := Nat.toDigits 10 n.natAbs
  fraction := none
  exponent := none

theorem toList_toString (n : Int) :
    (toString n).toList = (if n < 0 then ['-'] else []) ++ Nat.toDigits 10 n.natAbs := by
  rw [Int.toString_eq_repr, Int.repr_eq_if]
  by_cases hn : n < 0
  · have habs : (-n).toNat = n.natAbs := by omega
    rw [if_neg (Int.not_le.2 hn), if_pos hn, habs, String.toList_append, Nat.toList_repr]
    rfl
  · have habs : n.toNat = n.natAbs := by omega
    rw [if_pos (Int.not_lt.1 hn), if_neg hn, habs, Nat.toList_repr]
    rfl

theorem ofChars?_digits {ds : List Char} (hdigit : ∀ c ∈ ds, c.isDigit = true)
    (hwhole : isWhole ds = true) (negative : Bool) :
    ofChars? ((if negative then ['-'] else []) ++ ds) = some ⟨negative, ds, none, none⟩ := by
  have htake : ds.takeWhile Char.isDigit = ds := List.takeWhile_eq_self_iff.2 hdigit
  have hdrop : ds.dropWhile Char.isDigit = [] := List.dropWhile_eq_nil_iff.2 hdigit
  cases negative with
  | true => simp [ofChars?, htake, hdrop, hwhole, withExponent?]
  | false =>
    have hsign : ∀ rest, ds ≠ '-' :: rest := by
      rintro rest rfl
      exact absurd (hdigit '-' List.mem_cons_self) (by decide)
    simp [ofChars?, htake, hdrop, hwhole, withExponent?]

theorem ofChars?_toString (n : Int) : ofChars? (toString n).toList = some (ofInt n) := by
  have hdigit : ∀ c ∈ Nat.toDigits 10 n.natAbs, c.isDigit = true :=
    fun c hc => Nat.isDigit_of_mem_toDigits (by decide) (by decide) hc
  have h := ofChars?_digits hdigit (isWhole_toDigits n.natAbs) (decide (n < 0))
  simp only [decide_eq_true_eq] at h
  rw [toList_toString]
  exact h

/-- An integer of 64 bits, with a sign or without, is read as itself. -/
theorem datum_ofInt {n : Int} (hmin : Int64.minValue.toInt ≤ n) (hmax : n ≤ maxWord) :
    (ofInt n).datum = .int n := by
  have hvalue : Nat.ofDigitChars 10 (Nat.toDigits 10 n.natAbs) 0 = n.natAbs :=
    Nat.ofDigitChars_ten_toDigits
  have hmin' : -9223372036854775808 ≤ n := hmin
  have hmax' : n ≤ 18446744073709551615 := hmax
  have hfits : n.natAbs ≤ maxWord := by
    show n.natAbs ≤ 18446744073709551615
    omega
  have hdigits : appendDigits 0 (Nat.toDigits 10 n.natAbs) = (n.natAbs, 0) := by
    rw [appendDigits_eq (by rwa [hvalue]), hvalue]
  have hdatum : (ofInt n).datum = integerDatum (decide (n < 0)) n.natAbs := by
    unfold datum ofInt
    dsimp only
    rw [hdigits]
    rfl
  rw [hdatum]
  unfold integerDatum
  by_cases hn : n < 0
  · have hnegative : 0 < n.natAbs ∧ n.natAbs ≤ UInt64.size / 2 := by
      show 0 < n.natAbs ∧ n.natAbs ≤ 9223372036854775808
      omega
    have habs : -(n.natAbs : Int) = n := by omega
    rw [decide_eq_true hn, if_neg (by decide), if_pos hnegative, habs]
  · have habs : (n.natAbs : Int) = n := by omega
    rw [decide_eq_false hn]
    show Datum.int n.natAbs = .int n
    rw [habs]

end Numeral

theorem isNumberChar_of_isDigit {c : Char} (h : c.isDigit = true) : isNumberChar c = true := by
  simp [isNumberChar, h]

theorem read?_number {cs : List Char} (h : ∀ c ∈ cs, isNumberChar c = true) (acc : List Char) :
    (LexState.number acc).read? cs = some (.number (cs.reverse ++ acc), []) := by
  induction cs generalizing acc with
  | nil => rfl
  | cons c rest ih =>
    rw [List.forall_mem_cons] at h
    have hstep : (LexState.number acc).step? c = some (.number (c :: acc), []) := if_pos h.1
    rw [read?_cons hstep, ih h.2, List.reverse_cons, List.append_assoc]
    rfl

/-- A digit or a sign starts a number. -/
theorem start?_number {c : Char} (h : (c = '-' || c.isDigit) = true) :
    start? c = some (.number [c], []) := by
  have hne : ∀ d : Char, (d = '-' || d.isDigit) = false → c ≠ d := by
    rintro d hd rfl
    exact Bool.false_ne_true (hd.symm.trans h)
  have hspace : ¬ isSpace c = true := by
    simp [isSpace, hne ' ' rfl, hne '\t' rfl, hne '\n' rfl, hne '\r' rfl]
  unfold start?
  rw [if_neg hspace, if_neg (hne '[' rfl), if_neg (hne ']' rfl), if_neg (hne '\x7b' rfl),
    if_neg (hne '\x7d' rfl), if_neg (hne ',' rfl), if_neg (hne ':' rfl), if_neg (hne '"' rfl),
    if_pos h]

/-- A number that starts with a digit or a sign is one token. -/
theorem isTokenText_number {c : Char} {cs : List Char} (hc : (c = '-' || c.isDigit) = true)
    (hcs : ∀ d ∈ cs, isNumberChar d = true) {n : Numeral}
    (hn : Numeral.ofChars? (c :: cs) = some n) :
    IsTokenText (c :: cs) (.scalar n.datum) := by
  have hstep : between.step? c = some (.number [c], []) := start?_number hc
  have hread : between.read? (c :: cs) = some (.number (cs.reverse ++ [c]), []) := by
    rw [read?_cons hstep, read?_number hcs]
  refine isTokenText_of_read? hread rfl ?_
  show (Numeral.ofChars? (cs.reverse ++ [c]).reverse).map _ = _
  rw [List.reverse_append, List.reverse_reverse]
  show (Numeral.ofChars? (c :: cs)).map _ = _
  rw [hn]
  rfl

/-- An integer is written as one token. -/
theorem isTokenText_int (n : Int) :
    IsTokenText (toString n).toList (.scalar (Numeral.ofInt n).datum) := by
  have hdigit : ∀ c ∈ Nat.toDigits 10 n.natAbs, c.isDigit = true :=
    fun c hc => Nat.isDigit_of_mem_toDigits (by decide) (by decide) hc
  have hnumber : ∀ c ∈ Nat.toDigits 10 n.natAbs, isNumberChar c = true :=
    fun c hc => isNumberChar_of_isDigit (hdigit c hc)
  have hchars := Numeral.ofChars?_toString n
  rw [Numeral.toList_toString] at hchars ⊢
  by_cases hn : n < 0
  · rw [if_pos hn] at hchars ⊢
    exact isTokenText_number rfl hnumber hchars
  · rw [if_neg hn, List.nil_append] at hchars ⊢
    have hne : Nat.toDigits 10 n.natAbs ≠ [] := Nat.toDigits_ne_nil
    obtain ⟨c, rest, hcons⟩ := List.exists_cons_of_ne_nil hne
    rw [hcons, List.forall_mem_cons] at hdigit hnumber
    rw [hcons] at hchars ⊢
    exact isTokenText_number (by simp [hdigit.1]) hnumber.2 hchars

end CallPolicy.Json
