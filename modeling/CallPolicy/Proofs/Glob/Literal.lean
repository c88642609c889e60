import CallPolicy.Proofs.Glob.Anchor
import CallPolicy.Proofs.Path.Joined

namespace CallPolicy

open Text CallPolicy.Path

/-!
# Globs without wildcards

A glob in which no wildcard starts stands for one path. Behind the root it is read as it is, while
the root is escaped, so the anchored glob is a text of which some characters are escaped.

* `Glob.Spells` — a glob is a text with some characters escaped.
* `Glob.parse_of_spells` — such a glob is accepted, and matches just the text.
* `PathGlob.spells_anchor` — an anchored glob without wildcards spells the path that it names.
* `PathGlob.compile_literal` — so it matches a file exactly if the file is this path.
-/

namespace Glob

/-- The character starts a wildcard. -/
def isWildcard (c : Char) : Bool :=
  c == '*' || c == '?' || c == '['

/-- The glob is the text, some of whose special characters are escaped; the others start no
wildcard. -/
inductive Spells : List Char → List Char → Prop
  | nil : Spells [] []
  | plain {c : Char} {glob cs : List Char} (hc : isWildcard c = false) (h : Spells glob cs) :
    Spells (c :: glob) (c :: cs)
  | escaped {c : Char} {glob cs : List Char} (hc : isSpecial c = true) (h : Spells glob cs) :
    Spells ('[' :: c :: ']' :: glob) (c :: cs)

/-! ### Which texts spell which -/

theorem spells_self {cs : List Char} (h : ∀ c ∈ cs, isWildcard c = false) : Spells cs cs := by
  induction cs with
  | nil => exact .nil
  | cons c rest ih =>
    rw [List.forall_mem_cons] at h
    exact .plain h.1 (ih h.2)

theorem spells_escape (cs : List Char) : Spells (escape cs) cs := by
  induction cs with
  | nil => exact .nil
  | cons c rest ih =>
    rw [escape_cons]
    by_cases hc : isSpecial c = true
    · have hescape : escape [c] = ['[', c, ']'] := by simp [escape, hc]
      rw [hescape]
      exact .escaped hc ih
    · have hescape : escape [c] = [c] := by simp [escape, hc]
      have hplain : isWildcard c = false := by
        simp only [isSpecial, Bool.or_eq_true, beq_iff_eq, not_or] at hc
        simp [isWildcard, hc]
      rw [hescape]
      exact .plain hplain ih

theorem Spells.append {glob glob' cs cs' : List Char} (h : Spells glob cs)
    (h' : Spells glob' cs') : Spells (glob ++ glob') (cs ++ cs') := by
  induction h with
  | nil => exact h'
  | plain hc _ ih => exact .plain hc ih
  | escaped hc _ ih => exact .escaped hc ih

theorem Spells.eq_parent_iff {glob cs : List Char} (h : Spells glob cs) :
    glob = parentSegment ↔ cs = parentSegment := by
  constructor
  · rintro rfl
    cases h with
    | plain _ h =>
      cases h with
      | plain _ h =>
        cases h
        rfl
  · rintro rfl
    -- Dots are not special, so neither of the two was escaped.
    cases h with
    | escaped hc _ => cases hc
    | plain _ h =>
      cases h with
      | escaped hc _ => cases hc
      | plain _ h =>
        cases h
        rfl

theorem spells_intercalate {globs names : List Segment} (h : List.Forall₂ Spells globs names) :
    Spells (['/'].intercalate globs) (['/'].intercalate names) := by
  have hslash : Spells ['/'] ['/'] := .plain rfl .nil
  induction h with
  | nil => exact .nil
  | cons hs hrest ih =>
    cases hrest with
    | nil =>
      rw [List.intercalate_singleton, List.intercalate_singleton]
      exact hs
    | cons ht hrest =>
      rw [List.intercalate_cons_cons, List.intercalate_cons_cons]
      exact (hs.append hslash).append ih

/-! ### Matching -/

/-- The token stands for the character and for no other. -/
def Token.StandsFor (t : Token) (c : Char) : Prop :=
  t = .literal c ∨ t = .oneOf [⟨c, c⟩] ∧ c ≠ '/'

theorem admits_iff_of_standsFor {t : Token} {c : Char} (h : t.StandsFor c) (d : Char) :
    t.admits d = true ↔ d = c := by
  rcases h with rfl | ⟨rfl, hslash⟩
  · simp only [Token.admits, beq_iff_eq]
    exact eq_comm
  · simp only [Token.admits, CharRange.contains, List.any_cons, List.any_nil, Bool.or_false,
      Bool.and_eq_true, bne_iff_ne, decide_eq_true_eq]
    constructor
    · rintro ⟨-, hle, hge⟩
      exact Char.le_antisymm hge hle
    · rintro rfl
      exact ⟨hslash, Char.le_refl _, Char.le_refl _⟩

theorem accepts_cons_iff {t : Token} {c : Char} (h : t.StandsFor c) (tokens : List Token)
    (xs : List Char) :
    accepts (t :: tokens) xs = true ↔ ∃ rest, xs = c :: rest ∧ accepts tokens rest = true := by
  have hrun : t ≠ .anyRun ∧ t ≠ .anySegments := by
    rcases h with rfl | ⟨rfl, -⟩
    · exact ⟨nofun, nofun⟩
    · exact ⟨nofun, nofun⟩
  cases xs with
  | nil =>
    rw [accepts]
    · simp
    · exact hrun.1
    · exact hrun.2
  | cons d rest =>
    rw [accepts, Bool.and_eq_true, admits_iff_of_standsFor h]
    · constructor
      · rintro ⟨rfl, hrest⟩
        exact ⟨rest, rfl, hrest⟩
      · rintro ⟨rest', heq, hrest⟩
        obtain ⟨rfl, rfl⟩ := List.cons.inj heq
        exact ⟨rfl, hrest⟩
    · exact hrun.1
    · exact hrun.2

/-- Tokens that take one character and then match one text match the text with the character in
front. -/
theorem accepts_cons_iff_eq {t : Token} {c : Char} (h : t.StandsFor c) {tokens : List Token}
    {cs : List Char} (htokens : ∀ xs, accepts tokens xs = true ↔ xs = cs) (xs : List Char) :
    accepts (t :: tokens) xs = true ↔ xs = c :: cs := by
  rw [accepts_cons_iff h]
  constructor
  · rintro ⟨rest, rfl, hrest⟩
    rw [(htokens rest).1 hrest]
  · rintro rfl
    exact ⟨cs, rfl, (htokens cs).2 rfl⟩

/-- A glob that spells a text is accepted, and matches just the text. -/
theorem parse_of_spells {glob cs : List Char} (h : Spells glob cs) :
    ∃ tokens, parse glob = .ok tokens ∧ ∀ xs, accepts tokens xs = true ↔ xs = cs := by
  have hread : ∀ position before, ∃ tokens, tokensAt position before glob = .ok tokens ∧
      ∀ xs, accepts tokens xs = true ↔ xs = cs := by
    induction h with
    | nil =>
      intro position before
      refine ⟨[], ?_, ?_⟩
      · rw [tokensAt]
      · simp [accepts]
    | @plain c glob cs hc _ ih =>
      intro position before
      simp only [isWildcard, Bool.or_eq_false_iff, beq_eq_false_iff_ne] at hc
      obtain ⟨⟨hstar, hquestion⟩, hbracket⟩ := hc
      obtain ⟨tokens, htokens, hmatch⟩ := ih (position + 1) (some c)
      refine ⟨.literal c :: tokens, ?_, accepts_cons_iff_eq (Or.inl rfl) hmatch⟩
      rw [tokensAt_of_ne hquestion hstar hbracket, htokens]
      rfl
    | @escaped c glob cs hc _ ih =>
      intro position before
      have hslash : c ≠ '/' := by
        rintro rfl
        cases hc
      have htoken : tokenOf c = .oneOf [⟨c, c⟩] := by simp [tokenOf, hc]
      rw [tokensAt_class (readClass?_special hc glob)]
      obtain ⟨tokens, htokens, hmatch⟩ :=
        ih (position + 1 + ((c :: ']' :: glob).length - glob.length)) (some ']')
      refine ⟨tokenOf c :: tokens, ?_, accepts_cons_iff_eq (Or.inr ⟨htoken, hslash⟩) hmatch⟩
      rw [htokens]
      rfl
  exact hread 0 none

end Glob

namespace PathGlob

open Glob

/-- No wildcard starts in the glob. -/
def IsLiteral (glob : List Char) : Prop :=
  ∀ c ∈ glob, isWildcard c = false

theorem spells_segmentsOf {glob : List Char} (h : IsLiteral glob) :
    List.Forall₂ Spells (segmentsOf (unifySeparators glob))
      (segmentsOf (unifySeparators glob)) := by
  rw [List.forall₂_same]
  intro s hs
  apply spells_self
  intro c hc
  have hmem : c ∈ unifySeparators glob := (mem_of_mem_splitOn (List.mem_filter.1 hs).1 hc).1
  obtain ⟨d, hd, rfl⟩ := List.mem_map.1 hmem
  split
  · rfl
  · exact h d hd

section

variable {root : ProjectRoot} (hroot : root.path.IsPlain) {glob : List Char}
  (hglob : IsLiteral glob)

include hroot hglob

/-- An anchored glob without wildcards spells the path that it names. -/
theorem spells_anchor : Spells (anchor root glob).text (root.path.resolve glob).text := by
  have hjoin : List.Forall₂ Spells
      ((ofText (Glob.escape root.path.text)).join (ofText (unifySeparators glob))).segments
      (root.path.join (ofText (unifySeparators glob))).segments := by
    rw [ofText_escape_text hroot]
    unfold join
    -- An absolute glob stands alone, a relative one behind the escaped names of the root.
    split
    · exact spells_segmentsOf hglob
    · refine List.rel_append ?_ (spells_segmentsOf hglob)
      rw [List.forall₂_map_left_iff, List.forall₂_same]
      exact fun s _ => spells_escape s
  have hrooted : ((ofText (Glob.escape root.path.text)).join
      (ofText (unifySeparators glob))).rooted =
        (root.path.join (ofText (unifySeparators glob))).rooted := by
    rw [ofText_escape_text hroot]
    unfold join
    split
    · rfl
    · exact hroot.rooted.symm
  have hresolved : (root.path.resolve glob).rooted = true := (isPlain_resolve hroot glob).rooted
  have hanchor : (anchor root glob).rooted = true := hrooted.trans hresolved
  have hsegments :
      List.Forall₂ Spells (anchor root glob).segments (root.path.resolve glob).segments :=
    forall₂_clean (fun _ _ => Spells.eq_parent_iff) hrooted hjoin
  rw [text_of_rooted hanchor, text_of_rooted hresolved]
  exact .plain rfl (spells_intercalate hsegments)

end

/-- **A glob without wildcards.** At a root in an absolute working directory, whatever its name, a
glob that is not blank and in which no wildcard starts is accepted, and matches a file exactly if
the file is the path that the glob names. -/
theorem compile_literal {workDir : String} (hworkDir : isAbsolute workDir.toList = true)
    (root : String) {glob : String} (hblank : isAllBlank glob.toList = false)
    (hglob : IsLiteral glob.toList) :
    ∃ g, compile (.locate workDir root) glob = .ok g ∧
      ∀ file : String, g.covers ((ProjectRoot.locate workDir root).resolve file).toString = true ↔
        (ProjectRoot.locate workDir root).resolve file =
          (ProjectRoot.locate workDir root).resolve glob := by
  have hroot := ProjectRoot.isPlain_locate_from hworkDir root
  generalize ProjectRoot.locate workDir root = root at hroot ⊢
  obtain ⟨tokens, hparse, hmatch⟩ := parse_of_spells (spells_anchor hroot hglob)
  unfold compile
  rw [if_neg (by simp [hblank])]
  simp only [hparse]
  refine ⟨_, rfl, fun file => ?_⟩
  have hfile : (root.resolve file).IsPlain := isPlain_resolve hroot file.toList
  have hnamed : (root.resolve glob).IsPlain := isPlain_resolve hroot glob.toList
  -- A plain path holds no backslash, so its text is matched as it is.
  have htext : unifySeparators (root.resolve file).toString.toList = (root.resolve file).text := by
    rw [Path.toString, String.toList_ofList,
      unifySeparators_of_not_mem hfile.backslash_not_mem_text]
  rw [covers, acceptsQuickly_eq, htext, hmatch]
  constructor
  · intro h
    exact eq_of_text_eq hfile hnamed h
  · intro h
    rw [h]
    rfl

/-- In a root whose name is a glob itself, a name with a `]` stands for itself, however it is
spelled. -/
theorem compile_literal_brackets :
    isAbsolute "/work/[x]".toList = true ∧ isAllBlank "./b\\..\\c].php".toList = false ∧
      IsLiteral "./b\\..\\c].php".toList ∧
      ∃ g, compile (.locate "/work/[x]" "a*") "./b\\..\\c].php" = .ok g ∧
        g.covers ((ProjectRoot.locate "/work/[x]" "a*").resolve "lib/../c].php").toString = true ∧
        g.covers ((ProjectRoot.locate "/work/[x]" "a*").resolve "c].phpx").toString = false := by
  have hworkDir : isAbsolute "/work/[x]".toList = true := rfl
  have hblank : isAllBlank "./b\\..\\c].php".toList = false := rfl
  have hliteral : IsLiteral "./b\\..\\c].php".toList := by
    have hall : ("./b\\..\\c].php".toList.all fun c => !isWildcard c) = true := by decide
    intro c hc
    simpa using List.all_eq_true.1 hall c hc
  obtain ⟨g, hg, hcovers⟩ := compile_literal hworkDir "a*" hblank hliteral
  refine ⟨hworkDir, hblank, hliteral, g, hg, (hcovers _).2 (by decide +kernel), ?_⟩
  rw [← Bool.not_eq_true, hcovers]
  decide +kernel

end PathGlob

end CallPolicy
