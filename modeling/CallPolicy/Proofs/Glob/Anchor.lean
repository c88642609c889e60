import CallPolicy.Glob.PathGlob
import CallPolicy.Proofs.Outcome
import CallPolicy.Proofs.Path.Clean

namespace CallPolicy

open Text CallPolicy.Path

/-!
# Anchored globs

A glob is anchored by putting the escaped text of the project root in front of it. The root then
stands for itself, whatever its name is.

* `Glob.tokensAt_escape` — an escaped text is read as its characters.
* `Glob.accepts_append` — tokens of characters take just these characters off a path.
* `PathGlob.anchor_text`, `PathGlob.parse_anchor` — what a glob that stays inside the root is
  anchored to, and its tokens.
* `PathGlob.compile_relocated` — two roots accept the same globs, for the same files.
-/

namespace Glob

/-! ### Escaped texts -/

/-- The token for one given character. -/
def tokenOf (c : Char) : Token :=
  if isSpecial c then .oneOf [⟨c, c⟩] else .literal c

theorem escape_cons (c : Char) (cs : List Char) : escape (c :: cs) = escape [c] ++ escape cs := by
  simp [escape]

theorem escape_append (xs ys : List Char) : escape (xs ++ ys) = escape xs ++ escape ys := by
  simp [escape]

theorem escape_of_not_special {cs : List Char} (h : ∀ c ∈ cs, isSpecial c = false) :
    escape cs = cs := by
  induction cs with
  | nil => rfl
  | cons c rest ih =>
    have hc := h c List.mem_cons_self
    rw [escape_cons, ih fun d hd => h d (List.mem_cons_of_mem c hd)]
    simp [escape, hc]

/-- Escaping makes no text without special characters from another one. -/
theorem escape_eq_iff {cs target : List Char} (htarget : ∀ c ∈ target, isSpecial c = false) :
    escape cs = target ↔ cs = target := by
  constructor
  · intro h
    have hcs : ∀ c ∈ cs, isSpecial c = false := by
      intro c hc
      -- A special character would put its bracket into the target.
      by_contra hspecial
      rw [Bool.not_eq_false] at hspecial
      have hbracket : '[' ∈ escape cs :=
        List.mem_flatMap.2 ⟨c, hc, by simp [hspecial]⟩
      have hnone := htarget '[' (h ▸ hbracket)
      cases hnone
    rwa [escape_of_not_special hcs] at h
  · rintro rfl
    exact escape_of_not_special htarget

theorem slash_not_mem_escape {c : Char} (h : c ≠ '/') : '/' ∉ escape [c] := by
  unfold escape
  by_cases hc : isSpecial c = true
  · simp [hc, Ne.symm h]
  · simp [hc, Ne.symm h]

/-- Escaping leaves separators alone. -/
theorem splitOn_escape (cs : List Char) :
    splitOn '/' (escape cs) = (splitOn '/' cs).map escape := by
  induction cs with
  | nil => rfl
  | cons c rest ih =>
    obtain ⟨piece, pieces, hpieces⟩ := List.exists_cons_of_ne_nil (splitOn_ne_nil '/' rest)
    rw [escape_cons]
    by_cases hc : c = '/'
    · subst hc
      have hslash : escape ['/'] = ['/'] := rfl
      rw [hslash, List.singleton_append, splitOn, splitOn, ih, hpieces]
      rfl
    · rw [splitOn_append_of_not_mem (slash_not_mem_escape hc), splitOn_cons_of_ne hc, ih, hpieces,
        List.modifyHead_cons, List.map_cons, List.map_cons, escape_cons c piece]
      rfl

theorem dot_not_special : isSpecial '.' = false := rfl

theorem escape_eq_parent_iff (s : Segment) : escape s = parentSegment ↔ s = parentSegment :=
  escape_eq_iff
    (List.forall_mem_cons.2 ⟨dot_not_special, List.forall_mem_singleton.2 dot_not_special⟩)

theorem segmentsOf_escape (cs : List Char) :
    segmentsOf (escape cs) = (segmentsOf cs).map escape := by
  unfold segmentsOf
  rw [splitOn_escape, List.filter_map]
  congr 1
  refine List.filter_congr fun piece _ => ?_
  have hnil : (escape piece).isEmpty = piece.isEmpty := by
    rw [Bool.eq_iff_iff, List.isEmpty_iff, List.isEmpty_iff]
    exact escape_eq_iff (List.forall_mem_nil _)
  have hdot : (escape piece != ['.']) = (piece != ['.']) := by
    rw [Bool.eq_iff_iff, bne_iff_ne, bne_iff_ne, Ne, Ne,
      escape_eq_iff (List.forall_mem_singleton.2 dot_not_special)]
  rw [Function.comp_apply, hnil, hdot]

theorem escape_intercalate (names : List Segment) :
    escape (['/'].intercalate names) = ['/'].intercalate (names.map escape) := by
  induction names with
  | nil => rfl
  | cons s rest ih =>
    cases rest with
    | nil => rw [List.intercalate_singleton, List.map_singleton, List.intercalate_singleton]
    | cons t rest =>
      rw [List.intercalate_cons_cons, escape_append, escape_append, ih, List.map_cons,
        List.map_cons, List.map_cons, List.intercalate_cons_cons]
      rfl

/-- The text in front of all paths in a directory, escaped, is that of the directory with the
escaped names. -/
theorem escape_lead (dir : Path) :
    escape dir.lead = lead { dir with segments := dir.segments.map escape } := by
  unfold lead
  rw [escape_cons]
  have hslash : escape ['/'] = ['/'] := rfl
  rw [hslash, List.singleton_append, List.flatMap_map]
  congr 1
  induction dir.segments with
  | nil => rfl
  | cons s rest ih =>
    rw [List.flatMap_cons, List.flatMap_cons, escape_append, escape_append, ih, hslash]

/-! ### Reading -/

theorem tokensAt_class {rest after : List Char} {token : Token}
    (h : readClass? rest = some (token, after)) (position : Nat) (before : Option Char) :
    tokensAt position before ('[' :: rest) =
      (token :: ·) <$> tokensAt (position + 1 + (rest.length - after.length)) (some ']') after := by
  rw [tokensAt]
  split
  · rename_i h'
    rw [h] at h'
    cases h'
    rfl
  · rename_i h'
    rw [h] at h'
    cases h'

theorem tokensAt_unclosed {rest : List Char} (h : readClass? rest = none) (position : Nat)
    (before : Option Char) :
    tokensAt position before ('[' :: rest) = .error ⟨position, .unclosedClass⟩ := by
  rw [tokensAt]
  split
  · rename_i h'
    rw [h] at h'
    cases h'
  · rfl

theorem readClass?_special {c : Char} (h : isSpecial c = true) (rest : List Char) :
    readClass? (c :: ']' :: rest) = some (tokenOf c, rest) := by
  simp only [isSpecial, Bool.or_eq_true, beq_iff_eq] at h
  rcases h with ((rfl | rfl) | rfl) | rfl <;> rfl

/-- A character that starts no wildcard is read as itself. -/
theorem tokensAt_of_ne {c : Char} (hquestion : c ≠ '?') (hstar : c ≠ '*') (hbracket : c ≠ '[')
    (position : Nat) (before : Option Char) (rest : List Char) :
    tokensAt position before (c :: rest) =
      (.literal c :: ·) <$> tokensAt (position + 1) (some c) rest := by
  rw [tokensAt]
  · exact hquestion
  · exact fun _ hc _ => hstar hc
  · exact fun _ hc _ => hstar hc
  · exact hstar
  · exact hbracket

theorem tokensAt_literal {c : Char} (h : isSpecial c = false) (position : Nat)
    (before : Option Char) (rest : List Char) :
    tokensAt position before (c :: rest) =
      (.literal c :: ·) <$> tokensAt (position + 1) (some c) rest := by
  simp only [isSpecial, Bool.or_eq_false_iff, beq_eq_false_iff_ne] at h
  obtain ⟨⟨⟨hquestion, hstar⟩, hbracket⟩, -⟩ := h
  exact tokensAt_of_ne hquestion hstar hbracket position before rest

/-- The next character of an escaped text is read as itself. -/
theorem tokensAt_escape_cons (c : Char) (rest : List Char) (position : Nat)
    (before : Option Char) :
    ∃ position' before', tokensAt position before (escape [c] ++ rest) =
        (tokenOf c :: ·) <$> tokensAt position' before' rest ∧
      (c = '/' → before' = some '/') := by
  by_cases hc : isSpecial c = true
  · have hescape : escape [c] ++ rest = '[' :: c :: ']' :: rest := by simp [escape, hc]
    refine ⟨_, _, by rw [hescape, tokensAt_class (readClass?_special hc rest)], ?_⟩
    rintro rfl
    cases hc
  · rw [Bool.not_eq_true] at hc
    have hescape : escape [c] ++ rest = c :: rest := by simp [escape, hc]
    have htoken : tokenOf c = .literal c := by simp [tokenOf, hc]
    exact ⟨_, _, by rw [hescape, htoken, tokensAt_literal hc], fun h => by rw [h]⟩

/-- A text that ends in `/` is read as its characters once it is escaped, whatever is behind it. -/
theorem tokensAt_escape {front : List Char} (h : front.getLast? = some '/') (rest : List Char)
    (position : Nat) (before : Option Char) :
    ∃ position', tokensAt position before (escape front ++ rest) =
      (front.map tokenOf ++ ·) <$> tokensAt position' (some '/') rest := by
  induction front generalizing position before with
  | nil => cases h
  | cons c front ih =>
    rw [escape_cons, List.append_assoc]
    obtain ⟨position', before', hread, hslash⟩ :=
      tokensAt_escape_cons c (escape front ++ rest) position before
    cases front with
    -- The last character is the `/` that the next token is read behind.
    | nil =>
      have hc : c = '/' := by simpa using h
      exact ⟨position', by rw [hread, hslash hc]; rfl⟩
    | cons d front =>
      obtain ⟨position'', hrest⟩ := ih (by simpa using h) position' before'
      refine ⟨position'', ?_⟩
      rw [hread, hrest]
      cases tokensAt position'' (some '/') rest <;> rfl

/-- The whole of an escaped text is read as its characters. -/
theorem tokensAt_escape_all (cs : List Char) (position : Nat) (before : Option Char) :
    tokensAt position before (escape cs) = .ok (cs.map tokenOf) := by
  induction cs generalizing position before with
  | nil =>
    have hescape : escape [] = [] := rfl
    rw [hescape, tokensAt]
    rfl
  | cons c rest ih =>
    obtain ⟨position', before', hread, -⟩ :=
      tokensAt_escape_cons c (escape rest) position before
    rw [escape_cons, hread, ih]
    rfl

/-- The position only shows in errors. -/
theorem sameOutcome_tokensAt (p q : Nat) (before : Option Char) (cs : List Char) :
    SameOutcome (fun e e' : SyntaxError => e.reason = e'.reason) Eq (tokensAt p before cs)
      (tokensAt q before cs) := by
  -- A token in front is the same in both.
  have hcons : ∀ {x y : Except SyntaxError (List Token)} (token : Token),
      SameOutcome (fun e e' : SyntaxError => e.reason = e'.reason) Eq x y →
      SameOutcome (fun e e' : SyntaxError => e.reason = e'.reason) Eq ((token :: ·) <$> x)
        ((token :: ·) <$> y) :=
    fun token h => h.map fun _ _ hab => congrArg (token :: ·) hab
  induction p, before, cs using tokensAt.induct generalizing q with
  | case1 p before =>
    rw [tokensAt, tokensAt]
    exact .ok rfl
  | case2 p before rest ih =>
    rw [tokensAt, tokensAt]
    exact hcons .anyChar (ih _)
  | case3 p before rest =>
    rw [tokensAt, tokensAt]
    exact .error rfl
  | case4 p before hbefore =>
    rw [tokensAt, tokensAt, if_pos hbefore, if_pos hbefore]
    exact .ok rfl
  | case5 p before hbefore rest _ ih =>
    rw [tokensAt, tokensAt, if_pos hbefore, if_pos hbefore]
    exact hcons .anySegments (ih _)
  | case6 p before hbefore c rest hslash hstar =>
    rw [tokensAt.eq_6 p before c rest hslash hstar, tokensAt.eq_6 q before c rest hslash hstar,
      if_pos hbefore, if_pos hbefore]
    exact .error rfl
  | case7 p before rest hstar hbefore =>
    -- Inside a segment, `**` is refused before what follows is looked at.
    have hread : ∀ position, tokensAt position before ('*' :: '*' :: rest) =
        .error ⟨position - 1, .recursiveInsideSegment⟩ := by
      intro position
      cases rest with
      | nil => rw [tokensAt, if_neg hbefore]
      | cons c rest =>
        by_cases hslash : c = '/'
        · subst hslash
          rw [tokensAt, if_neg hbefore]
        · rw [tokensAt.eq_6 position before c rest hslash hstar, if_neg hbefore]
    rw [hread, hread]
    exact .error rfl
  | case8 p before rest hthree htwo ih =>
    rw [tokensAt.eq_7 p before rest hthree htwo, tokensAt.eq_7 q before rest hthree htwo]
    exact hcons .anyRun (ih _)
  | case9 p before rest token after hclass _ ih =>
    rw [tokensAt_class hclass, tokensAt_class hclass]
    exact hcons token (ih _)
  | case10 p before rest hclass =>
    rw [tokensAt_unclosed hclass, tokensAt_unclosed hclass]
    exact .error rfl
  | case11 p before c rest hquestion hthree htwo hstar hbracket ih =>
    rw [tokensAt.eq_9 p before c rest hquestion hthree htwo hstar hbracket,
      tokensAt.eq_9 q before c rest hquestion hthree htwo hstar hbracket]
    exact hcons (.literal c) (ih _)

/-! ### Matching -/

theorem admits_tokenOf {c : Char} : (tokenOf c).admits c = true := by
  unfold tokenOf
  by_cases hc : isSpecial c = true
  · have hslash : c ≠ '/' := by
      rintro rfl
      cases hc
    simp [hc, Token.admits, CharRange.contains, hslash]
  · simp [hc, Token.admits]

theorem accepts_tokenOf_cons (c : Char) (tokens : List Token) (rest : List Char) :
    accepts (tokenOf c :: tokens) (c :: rest) = accepts tokens rest := by
  have hadmits := admits_tokenOf (c := c)
  unfold tokenOf at hadmits ⊢
  split at hadmits
  · rename_i hc
    rw [if_pos hc, accepts, hadmits, Bool.true_and]
    all_goals simp
  · rename_i hc
    rw [if_neg hc, accepts, hadmits, Bool.true_and]
    all_goals simp

/-- Tokens of characters take just these characters off the path. -/
theorem accepts_append (front : List Char) (tokens : List Token) (cs : List Char) :
    accepts (front.map tokenOf ++ tokens) (front ++ cs) = accepts tokens cs := by
  induction front with
  | nil => rfl
  | cons c front ih =>
    rw [List.map_cons, List.cons_append, List.cons_append, accepts_tokenOf_cons, ih]

end Glob

/-! ### Globs in a root -/

/-- The text of a glob error, but for the position in the anchored glob. -/
def GlobError.withoutPosition : GlobError → GlobError
  | .empty => .empty
  | .invalid pattern cause => .invalid pattern { cause with position := 0 }

namespace PathGlob

/-- The escaped text of a plain path is that of the directory with the escaped names. -/
theorem ofText_escape_text {p : Path} (h : p.IsPlain) :
    ofText (Glob.escape p.text) = { rooted := true, segments := p.segments.map Glob.escape } := by
  have hsegments : segmentsOf p.text = p.segments := congrArg Path.segments (ofText_text h)
  have habsolute : isAbsolute (Glob.escape p.text) = true := by
    rw [text_of_rooted h.rooted, Glob.escape_cons]
    rfl
  unfold ofText
  rw [habsolute, Glob.segmentsOf_escape, hsegments]

section

variable {root : ProjectRoot} (hroot : root.path.IsPlain)

include hroot

theorem parent_not_mem_escape : parentSegment ∉ root.path.segments.map Glob.escape := by
  intro h
  obtain ⟨s, hs, hescape⟩ := List.mem_map.1 h
  exact (hroot.isName s hs).ne_parent ((Glob.escape_eq_parent_iff s).1 hescape)

section

variable {glob : List Char} (hglob : StaysInside glob)

include hglob

/-- A glob that names something in the root is read after the root. -/
theorem anchor_text (hne : (spelled glob).segments ≠ []) :
    (anchor root glob).text =
      Glob.escape root.path.lead ++ ['/'].intercalate (spelled glob).segments := by
  unfold anchor
  rw [ofText_escape_text hroot, text_resolve hglob rfl (parent_not_mem_escape hroot) hne,
    Glob.escape_lead]
  rfl

/-- A glob that names nothing in the root names the root. -/
theorem anchor_text_of_nil (hnil : (spelled glob).segments = []) :
    (anchor root glob).text = Glob.escape root.path.text := by
  unfold anchor
  rw [ofText_escape_text hroot, text_resolve_of_nil hglob rfl (parent_not_mem_escape hroot) hnil]
  rw [text_of_rooted hroot.rooted, Glob.escape_cons, Glob.escape_intercalate]
  rfl

/-- Reading a glob that names something in the root is reading it behind a `/`. -/
theorem parse_anchor (hne : (spelled glob).segments ≠ []) :
    ∃ position, Glob.parse (anchor root glob).text =
      (root.path.lead.map Glob.tokenOf ++ ·) <$>
        Glob.tokensAt position (some '/') (['/'].intercalate (spelled glob).segments) := by
  rw [anchor_text hroot hglob hne, Glob.parse]
  exact Glob.tokensAt_escape (getLast?_lead root.path) _ _ _

theorem parse_anchor_of_nil (hnil : (spelled glob).segments = []) :
    Glob.parse (anchor root glob).text = .ok (root.path.text.map Glob.tokenOf) := by
  rw [anchor_text_of_nil hroot hglob hnil, Glob.parse, Glob.tokensAt_escape_all]

end

section

variable {file : String} (hfile : StaysInside file.toList)
  (hne : (spelled file.toList).segments ≠ [])

include hfile hne

/-- The text of a file in the root. -/
theorem toList_resolve :
    unifySeparators (root.resolve file).toString.toList =
      root.path.lead ++ ['/'].intercalate (spelled file.toList).segments := by
  have htext : (root.resolve file).toString.toList =
      root.path.lead ++ ['/'].intercalate (spelled file.toList).segments := by
    rw [Path.toString, String.toList_ofList, ProjectRoot.resolve,
      text_resolve hfile hroot.rooted hroot.parent_not_mem hne]
  -- A plain path holds no backslash, so nothing in its text is taken for a separator.
  have hplain : (root.resolve file).IsPlain := by
    rw [ProjectRoot.resolve, resolve_of_staysInside hfile hroot.rooted hroot.parent_not_mem]
    refine ⟨rfl, fun s hs => ?_⟩
    rcases List.mem_append.1 hs with hs | hs
    · exact hroot.isName s hs
    · exact hfile.isName hs
  rw [← htext, Path.toString, String.toList_ofList,
    unifySeparators_of_not_mem hplain.backslash_not_mem_text]

/-- Behind the root, a glob is matched with the rest of the file. -/
theorem covers_resolve {g : PathGlob} {tokens : List Glob.Token}
    (htokens : g.tokens = root.path.lead.map Glob.tokenOf ++ tokens) :
    g.covers (root.resolve file).toString =
      Glob.accepts tokens (['/'].intercalate (spelled file.toList).segments) := by
  rw [covers, Glob.acceptsQuickly_eq, htokens, toList_resolve hroot hfile hne, Glob.accepts_append]

/-- The root is no file in it. -/
theorem covers_resolve_of_root {g : PathGlob}
    (htokens : g.tokens = root.path.text.map Glob.tokenOf) :
    g.covers (root.resolve file).toString = false := by
  obtain ⟨more, hlead⟩ := exists_lead_eq hroot.rooted
  rw [covers, Glob.acceptsQuickly_eq, htokens, toList_resolve hroot hfile hne, hlead,
    List.append_assoc, ← List.append_nil (root.path.text.map Glob.tokenOf), Glob.accepts_append,
    Glob.accepts, List.isEmpty_eq_false_iff]
  intro hnil
  exact intercalate_ne_nil (fun s hs => hfile.isName hs) hne (List.append_eq_nil_iff.1 hnil).2

end

end

/-! ### Two roots -/

/-- Two globs of one text, at two roots, match the same files. -/
structure Relocated (root root' : ProjectRoot) (g g' : PathGlob) : Prop where
  text : g.text = g'.text
  covers : ∀ file : String, StaysInside file.toList → (spelled file.toList).segments ≠ [] →
    g.covers (root.resolve file).toString = g'.covers (root'.resolve file).toString

/-- Two roots accept the same globs, for the same files. -/
theorem compile_relocated {root root' : ProjectRoot} (hroot : root.path.IsPlain)
    (hroot' : root'.path.IsPlain) {glob : String} (hglob : StaysInside glob.toList) :
    SameOutcome (fun e e' : GlobError => e.withoutPosition = e'.withoutPosition)
      (Relocated root root') (compile root glob) (compile root' glob) := by
  unfold compile
  split
  · exact .error rfl
  dsimp only
  -- A glob that names the root alone is read to the end with the root, and matches no file.
  by_cases hnil : (spelled glob.toList).segments = []
  · rw [parse_anchor_of_nil hroot hglob hnil, parse_anchor_of_nil hroot' hglob hnil]
    refine .ok ⟨rfl, fun file hfile hne => ?_⟩
    rw [covers_resolve_of_root hroot hfile hne rfl, covers_resolve_of_root hroot' hfile hne rfl]
  · obtain ⟨position, hparse⟩ := parse_anchor hroot hglob hnil
    obtain ⟨position', hparse'⟩ := parse_anchor hroot' hglob hnil
    rw [hparse, hparse']
    rcases (Glob.sameOutcome_tokensAt position position' (some '/')
      (['/'].intercalate (spelled glob.toList).segments)).ok_or_error with
      ⟨tokens, _, hread, hread', rfl⟩ | ⟨e, e', hread, hread', hreason⟩
    · rw [hread, hread']
      refine .ok ⟨rfl, fun file hfile hne => ?_⟩
      rw [covers_resolve hroot hfile hne rfl, covers_resolve hroot' hfile hne rfl]
    · rw [hread, hread']
      refine .error ?_
      rw [GlobError.withoutPosition, GlobError.withoutPosition, hreason]

end PathGlob

end CallPolicy
