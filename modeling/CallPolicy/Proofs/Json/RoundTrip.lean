import CallPolicy.Proofs.Json.Nested
import CallPolicy.Proofs.Json.TokenTexts

namespace CallPolicy.Json

/-!
# Reading what was written

A datum that is written as JSON is read as the same datum, on one line or on several, whatever its
strings hold. The machine is followed through the text member by member: where a value is expected,
the text of a datum feeds it to the machine.

* `Enclosure`, `parseFrom?_enclose` — lists and tables are read alike, between their brackets.
* `ReadsAs` — the text of a datum is read as another datum, wherever a value is expected.
* `ReadsAs.list`, `ReadsAs.table` — members are read one by one, in order.
* `isExact`, `readsAs_self` — a datum of literals that JSON has is read as itself.
* `parse?_write` — so it is what its whole text holds.

A double is left out: what it is read as depends on how its decimals are rounded.
-/

open LexState Machine

/-! ### Machines that read tokens -/

/-- A text of one token takes the machine one step further. -/
theorem parseFrom?_token {cs : List Char} {t : Token} (h : IsTokenText cs t) {m next : Machine}
    (ht : m.step? t = some next) {rest : List Char} (hrest : Breaks rest) :
    parseFrom? m (cs ++ rest) = parseFrom? next rest := by
  unfold parseFrom?
  rw [h rest hrest]
  cases tokens? rest with
  | none => rfl
  | some more =>
    show (m.step? t >>= fun m' => run? m' more) >>= result? = run? next more >>= result?
    rw [ht]
    rfl

/-- White space does not count. -/
theorem parseFrom?_spaces (m : Machine) {spaces : List Char} (h : ∀ c ∈ spaces, isSpace c = true)
    (cs : List Char) : parseFrom? m (spaces ++ cs) = parseFrom? m cs := by
  unfold parseFrom?
  rw [tokens?_append_of_isSpace h]

theorem parseFrom?_lineBreak (m : Machine) (layout : Option Nat) (depth : Nat) (cs : List Char) :
    parseFrom? m (lineBreak layout depth ++ cs) = parseFrom? m cs :=
  parseFrom?_spaces m (fun _ hc => isSpace_of_mem_lineBreak hc) cs

/-- A value may start in the phase. -/
def Phase.ExpectsValue (phase : Phase) : Prop :=
  phase = .value ∨ phase = .valueOrEnd

/-- The first token of a value, where one may start. -/
theorem step?_of_expectsValue {phase : Phase} (h : phase.ExpectsValue) (stack : List Frame)
    {t : Token} (ht : t ≠ .closeList) : step? ⟨stack, phase⟩ t = value? stack t := by
  rcases h with rfl | rfl
  · rfl
  · exact step?_valueOrEnd stack ht

/-! ### Between two brackets -/

/-- The text of members that follow another one. -/
def moreMembers (layout : Option Nat) (depth : Nat) (texts : List (List Char)) : List Char :=
  texts.flatMap fun text => ',' :: (lineBreak layout depth ++ text)

theorem breaks_moreMembers (layout : Option Nat) (depth : Nat) (texts : List (List Char)) :
    Breaks (moreMembers layout depth texts) := by
  cases texts with
  | nil => exact breaks_nil
  | cons text more => exact breaks_cons rfl _

theorem enclose_cons (layout : Option Nat) (depth : Nat) (first last : Char) (text : List Char)
    (texts : List (List Char)) :
    enclose layout depth first last (text :: texts) =
      first :: (lineBreak layout (depth + 1) ++ (text ++
        (moreMembers layout (depth + 1) texts ++ (lineBreak layout depth ++ [last])))) := by
  unfold enclose moreMembers
  dsimp only
  rw [List.isEmpty_cons, if_neg Bool.false_ne_true, intercalate_cons]
  simp

/-- A pair of brackets, and how the machine reads what stands between them. The members are of the
type `μ`. -/
structure Enclosure (μ : Type) where
  first : Char
  last : Char
  /-- Open, with the members read so far, last first. -/
  frame : List μ → Frame
  /-- Closed. -/
  datum : List μ → Datum
  /-- Behind a comma. -/
  member : Phase
  /-- Behind the first bracket. -/
  memberOrEnd : Phase
  parse_first {phase : Phase} (h : phase.ExpectsValue) (stack : List Frame) (rest : List Char) :
    parseFrom? ⟨stack, phase⟩ (first :: rest) = parseFrom? ⟨frame [] :: stack, memberOrEnd⟩ rest
  parse_comma (read : List μ) (stack : List Frame) (rest : List Char) :
    parseFrom? ⟨frame read :: stack, .commaOrEnd⟩ (',' :: rest) =
      parseFrom? ⟨frame read :: stack, member⟩ rest
  parse_last (read : List μ) (stack : List Frame) (rest : List Char) :
    parseFrom? ⟨frame read :: stack, .commaOrEnd⟩ (last :: rest) =
      parseFrom? (feed (datum read.reverse) stack) rest
  parse_empty (stack : List Frame) (rest : List Char) :
    parseFrom? ⟨frame [] :: stack, memberOrEnd⟩ (last :: rest) =
      parseFrom? (feed (datum []) stack) rest
  isBreak_last : isBreak last = true

namespace Enclosure

variable {μ : Type} (e : Enclosure μ)

/-- The text is read as a member, at the beginning or behind a comma. -/
def IsMember (cs : List Char) (x : μ) : Prop :=
  ∀ (read : List μ) (stack : List Frame) (phase : Phase) (rest : List Char),
    phase = e.member ∨ phase = e.memberOrEnd → Breaks rest →
      parseFrom? ⟨e.frame read :: stack, phase⟩ (cs ++ rest) =
        parseFrom? ⟨e.frame (x :: read) :: stack, .commaOrEnd⟩ rest

variable {e}

/-- The members that follow the first one. -/
theorem parseFrom?_moreMembers {texts : List (List Char)} {xs : List μ}
    (h : List.Forall₂ e.IsMember texts xs) (layout : Option Nat) (depth : Nat) (read : List μ)
    (stack : List Frame) {rest : List Char} (hrest : Breaks rest) :
    parseFrom? ⟨e.frame read :: stack, .commaOrEnd⟩ (moreMembers layout depth texts ++ rest) =
      parseFrom? ⟨e.frame (xs.reverse ++ read) :: stack, .commaOrEnd⟩ rest := by
  induction h generalizing read with
  | nil => rfl
  | @cons text x texts xs htext _ ih =>
    have hbreaks : Breaks (moreMembers layout depth texts ++ rest) :=
      (breaks_moreMembers layout depth texts).append hrest
    have hcons : moreMembers layout depth (text :: texts) ++ rest =
        ',' :: (lineBreak layout depth ++ (text ++ (moreMembers layout depth texts ++ rest))) := by
      simp [moreMembers]
    rw [hcons, e.parse_comma, parseFrom?_lineBreak, htext read stack _ _ (Or.inl rfl) hbreaks, ih]
    simp

/-- Members between brackets are read in order. -/
theorem parseFrom?_enclose {texts : List (List Char)} {xs : List μ}
    (h : List.Forall₂ e.IsMember texts xs) (layout : Option Nat) (depth : Nat) {phase : Phase}
    (hphase : phase.ExpectsValue) (stack : List Frame) (rest : List Char) :
    parseFrom? ⟨stack, phase⟩ (enclose layout depth e.first e.last texts ++ rest) =
      parseFrom? (feed (e.datum xs) stack) rest := by
  cases h with
  | nil =>
    show parseFrom? _ (e.first :: e.last :: rest) = _
    rw [e.parse_first hphase, e.parse_empty]
  | @cons text x texts xs htext hmore =>
    have hend : Breaks (lineBreak layout depth ++ e.last :: rest) :=
      (breaks_of_isSpace fun _ hc => isSpace_of_mem_lineBreak hc).append
        (breaks_cons e.isBreak_last rest)
    have hbreaks := (breaks_moreMembers layout (depth + 1) texts).append hend
    have hread : (xs.reverse ++ [x]).reverse = x :: xs := by simp
    rw [enclose_cons]
    simp only [List.cons_append, List.append_assoc, List.nil_append]
    rw [e.parse_first hphase, parseFrom?_lineBreak, htext [] stack _ _ (Or.inr rfl) hbreaks,
      parseFrom?_moreMembers hmore _ _ _ _ hend, parseFrom?_lineBreak, e.parse_last, hread]

end Enclosure

/-- A key and its value, as the machine keeps them. -/
def readEntry (entry : String × Datum) : Option String × Datum :=
  (some entry.1, entry.2)

theorem tableOf_map_readEntry (entries : List (String × Datum)) :
    tableOf (entries.map readEntry) = .table entries.reverse := by
  have hkeys : (entries.map readEntry).reverse.mapM
      (fun entry => entry.1.map (·, entry.2)) = some entries.reverse := by
    rw [← List.map_reverse]
    induction entries.reverse with
    | nil => rfl
    | cons entry rest ih =>
      rw [List.map_cons, List.mapM_cons, ih]
      rfl
  unfold tableOf
  split
  case h_1 read hread => exact congrArg Datum.table (Option.some.inj (hread.symm.trans hkeys))
  case h_2 hread => cases hread.symm.trans hkeys

def listEnclosure : Enclosure Datum where
  first := '['
  last := ']'
  frame := .list
  datum := .list
  member := .value
  memberOrEnd := .valueOrEnd
  parse_first hphase stack rest := by
    have ht : Token.openList ≠ .closeList := nofun
    have hstep := step?_of_expectsValue hphase stack ht
    exact parseFrom?_cons rfl hstep rest
  parse_comma _ _ rest := parseFrom?_cons rfl rfl rest
  parse_last _ _ rest := parseFrom?_cons rfl rfl rest
  parse_empty _ rest := parseFrom?_cons rfl rfl rest
  isBreak_last := rfl

def tableEnclosure : Enclosure (String × Datum) where
  first := '\x7b'
  last := '\x7d'
  frame entries := .table (entries.map readEntry) none
  datum := .table
  member := .key
  memberOrEnd := .keyOrEnd
  parse_first hphase stack rest := by
    have ht : Token.openTable ≠ .closeList := nofun
    have hstep := step?_of_expectsValue hphase stack ht
    exact parseFrom?_cons rfl hstep rest
  parse_comma _ _ rest := parseFrom?_cons rfl rfl rest
  parse_last entries stack rest := by
    rw [← tableOf_map_readEntry]
    exact parseFrom?_cons rfl rfl rest
  parse_empty _ rest := parseFrom?_cons rfl rfl rest
  isBreak_last := rfl

/-! ### Data -/

/-- Wherever a value is expected, the text of the first datum is read as the second one. -/
def ReadsAs (written read : Datum) : Prop :=
  ∀ (layout : Option Nat) (depth : Nat) (phase : Phase) (stack : List Frame) (rest : List Char),
    phase.ExpectsValue → Breaks rest →
      parseFrom? ⟨stack, phase⟩ (write layout depth written ++ rest) =
        parseFrom? (feed read stack) rest

theorem readsAs_of_isTokenText {written read : Datum} {t : Token}
    (htext : ∀ layout depth, IsTokenText (write layout depth written) t) (ht : t ≠ .closeList)
    (hread : ∀ stack, value? stack t = some (feed read stack)) : ReadsAs written read := by
  intro layout depth phase stack rest hphase hrest
  have hstep : step? ⟨stack, phase⟩ t = some (feed read stack) := by
    rw [step?_of_expectsValue hphase stack ht, hread]
  exact parseFrom?_token (htext layout depth) hstep hrest

theorem readsAs_null : ReadsAs .null .null :=
  readsAs_of_isTokenText (fun _ _ => isTokenText_null) nofun fun _ => rfl

theorem readsAs_bool (b : Bool) : ReadsAs (.bool b) (.bool b) := by
  cases b with
  | true => exact readsAs_of_isTokenText (fun _ _ => isTokenText_true) nofun fun _ => rfl
  | false => exact readsAs_of_isTokenText (fun _ _ => isTokenText_false) nofun fun _ => rfl

theorem readsAs_text (s : String) : ReadsAs (.text s) (.text s) :=
  readsAs_of_isTokenText (fun _ _ => isTokenText_quote s) nofun fun _ => rfl

/-- An integer is read as one or, beyond 64 bits, as the double that is nearest. -/
theorem readsAs_int (n : Int) : ReadsAs (.int n) (Numeral.ofInt n).datum :=
  readsAs_of_isTokenText (fun _ _ => isTokenText_int n) nofun fun _ => rfl

theorem ReadsAs.list {items items' : List Datum} (h : List.Forall₂ ReadsAs items items') :
    ReadsAs (.list items) (.list items') := by
  intro layout depth phase stack rest hphase _
  have hmembers :
      List.Forall₂ listEnclosure.IsMember (writeItems layout (depth + 1) items) items' := by
    induction h with
    | nil => exact .nil
    | cons hd _ ih =>
      refine .cons ?_ ih
      intro read stack phase rest hphase hrest
      exact hd layout (depth + 1) phase _ rest hphase hrest
  exact Enclosure.parseFrom?_enclose hmembers layout depth hphase stack rest

/-- The text of an entry is read as the entry. -/
theorem isMember_entry {value value' : Datum} (h : ReadsAs value value') (key : String)
    (layout : Option Nat) (depth : Nat) :
    tableEnclosure.IsMember
      (quote key ++ (if layout.isSome then [':', ' '] else [':']) ++ write layout depth value)
      (key, value') := by
  intro read stack phase rest hphase hrest
  have hkey : step? ⟨tableEnclosure.frame read :: stack, phase⟩ (.text (some key)) =
      some ⟨.table (read.map readEntry) (some key) :: stack, .colon⟩ := by
    rcases hphase with rfl | rfl <;> rfl
  have hspaces : ∀ c ∈ (if layout.isSome then [' '] else []), isSpace c = true := by
    cases layout with
    | none => exact nofun
    | some width => simp [isSpace]
  have htext : quote key ++ (if layout.isSome then [':', ' '] else [':']) ++
      write layout depth value ++ rest = quote key ++ (':' ::
        ((if layout.isSome then [' '] else []) ++ (write layout depth value ++ rest))) := by
    cases layout <;> simp
  rw [htext, parseFrom?_token (isTokenText_quote key) hkey (breaks_cons rfl _)]
  rw [parseFrom?_cons rfl rfl, parseFrom?_spaces _ hspaces, h layout depth _ _ _ (Or.inl rfl) hrest]
  rfl

theorem ReadsAs.table {entries entries' : List (String × Datum)}
    (h : List.Forall₂ (fun e e' => e.1 = e'.1 ∧ ReadsAs e.2 e'.2) entries entries') :
    ReadsAs (.table entries) (.table entries') := by
  intro layout depth phase stack rest hphase _
  have hmembers :
      List.Forall₂ tableEnclosure.IsMember (writeEntries layout (depth + 1) entries) entries' := by
    induction h with
    | nil => exact .nil
    | @cons e e' _ _ hentry _ ih =>
      obtain ⟨key, value⟩ := e
      obtain ⟨key', value'⟩ := e'
      obtain ⟨rfl, hvalue⟩ := hentry
      exact .cons (isMember_entry hvalue key layout (depth + 1)) ih
  exact Enclosure.parseFrom?_enclose hmembers layout depth hphase stack rest

/-! ### Exact data -/

mutual

/-- Made of literals that JSON has: no doubles, no moments, and integers of 64 bits, with a sign or
without. -/
def isExact : Datum → Bool
  | .null | .bool _ | .text _ => true
  | .int n => Int64.minValue.toInt ≤ n && n ≤ maxWord
  | .float _ | .moment _ | .unreadable => false
  | .list items => areExact items
  | .table entries => entriesAreExact entries

def areExact : List Datum → Bool
  | [] => true
  | item :: items => isExact item && areExact items

def entriesAreExact : List (String × Datum) → Bool
  | [] => true
  | (_, value) :: entries => isExact value && entriesAreExact entries

end

theorem readsAs_int_self {n : Int} (hmin : Int64.minValue.toInt ≤ n) (hmax : n ≤ maxWord) :
    ReadsAs (.int n) (.int n) := by
  have h := readsAs_int n
  rwa [Numeral.datum_ofInt hmin hmax] at h

mutual

/-- **Exact data are read as written**, on one line or on several. -/
theorem readsAs_self : ∀ {d : Datum}, isExact d = true → ReadsAs d d
  | .null, _ => readsAs_null
  | .bool b, _ => readsAs_bool b
  | .text s, _ => readsAs_text s
  | .int n, h => by
    rw [isExact, Bool.and_eq_true, decide_eq_true_eq, decide_eq_true_eq] at h
    exact readsAs_int_self h.1 h.2
  | .float _, h | .moment _, h | .unreadable, h => nomatch h
  | .list _, h => .list (forall₂_readsAs_self h)
  | .table _, h => .table (forall₂_entries_self h)

theorem forall₂_readsAs_self : ∀ {items : List Datum}, areExact items = true →
    List.Forall₂ ReadsAs items items
  | [], _ => .nil
  | _ :: _, h =>
    have ⟨hitem, hitems⟩ := Bool.and_eq_true_iff.1 h
    .cons (readsAs_self hitem) (forall₂_readsAs_self hitems)

theorem forall₂_entries_self : ∀ {entries : List (String × Datum)}, entriesAreExact entries = true →
    List.Forall₂ (fun e e' => e.1 = e'.1 ∧ ReadsAs e.2 e'.2) entries entries
  | [], _ => .nil
  | _ :: _, h =>
    have ⟨hvalue, hentries⟩ := Bool.and_eq_true_iff.1 h
    .cons ⟨rfl, readsAs_self hvalue⟩ (forall₂_entries_self hentries)

end

/-! ### Whole texts -/

/-- The text of a datum, with white space behind it, holds what it is read as. -/
theorem parse?_write_append {written read : Datum} (h : ReadsAs written read) (layout : Option Nat)
    {spaces : List Char} (hspaces : ∀ c ∈ spaces, isSpace c = true) :
    parse? (write layout 0 written ++ spaces) = some read := by
  have hend : parseFrom? (feed read []) (spaces ++ []) = some read := by
    rw [parseFrom?_spaces _ hspaces]
    rfl
  rw [List.append_nil] at hend
  exact (h layout 0 .value [] spaces (Or.inl rfl) (breaks_of_isSpace hspaces)).trans hend

theorem parse?_write {written read : Datum} (h : ReadsAs written read) (layout : Option Nat) :
    parse? (write layout 0 written) = some read := by
  have hnone : ∀ c ∈ ([] : List Char), isSpace c = true := nofun
  have hparse := parse?_write_append h layout hnone
  rwa [List.append_nil] at hparse

end CallPolicy.Json
