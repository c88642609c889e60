import CallPolicy.FileTree
import CallPolicy.Proofs.Path.Ancestors

namespace CallPolicy

open Text

/-!
# Following paths

* `FileTree.follow_append` — a path is followed piece by piece.
* `FileTree.follow_eq_dir_iff` — pieces that say nothing do not matter on the way to a directory.
* `FileTree.eq_foldl_enter_of_follow` — a path that leads to a directory leads to the end of its
  walk.
* `FileTree.resolve_joinText` — where a name in such a directory leads.
-/

namespace FileTree

variable {t : FileTree}

/-! ### Bytes -/

theorem byteLength_append (xs ys : List Char) :
    byteLength (xs ++ ys) = byteLength xs + byteLength ys := by
  have hfold : ∀ (cs : List Char) (n : Nat),
      cs.foldl (fun bytes c => bytes + c.utf8Size) n = n + byteLength cs := by
    -- The bytes that were counted before are only carried along.
    intro cs
    induction cs with
    | nil => intro n; rfl
    | cons c rest ih =>
      intro n
      have hrest := ih (0 + c.utf8Size)
      unfold byteLength at hrest ⊢
      rw [List.foldl_cons, List.foldl_cons, ih, hrest]
      unfold byteLength
      omega
  unfold byteLength
  rw [List.foldl_append, hfold]
  rfl

theorem byteLength_le_of_prefix {xs ys : List Char} (h : xs <+: ys) :
    byteLength xs ≤ byteLength ys := by
  obtain ⟨rest, rfl⟩ := h
  rw [byteLength_append]
  omega

/-- The text of a name in a directory takes at most a separator more than the two. -/
theorem byteLength_joinText_le (dir name : List Char) :
    byteLength (Path.joinText dir name) ≤ byteLength dir + 1 + byteLength name := by
  have hslash : byteLength ('/' :: name) = 1 + byteLength name :=
    byteLength_append ['/'] name
  unfold Path.joinText
  split
  · omega
  · split
    · rw [byteLength_append]
      omega
    · rw [byteLength_append, hslash]
      omega

/-! ### Following -/

theorem follow_append (target : Target) (xs ys : List Segment) :
    t.follow target (xs ++ ys) = (t.follow target xs).bind fun next => t.follow next ys := by
  induction xs generalizing target with
  | nil => rfl
  | cons piece rest ih =>
    cases target with
    | file path text => rfl
    | missing path => rfl
    | dir path =>
      rw [List.cons_append, follow, follow]
      split
      · exact ih _
      · split
        · exact ih _
        · split
          · rfl
          · exact ih _

/-- Only from a directory does a path lead to a directory. -/
theorem exists_dir_of_follow {target : Target} {pieces : List Segment} {dir : List Segment}
    (h : t.follow target pieces = .ok (.dir dir)) : ∃ start, target = .dir start := by
  cases target with
  | dir start => exact ⟨start, rfl⟩
  | file path text =>
    cases pieces with
    | nil => cases h
    | cons piece rest => cases h
  | missing path =>
    cases pieces with
    | nil => cases h
    | cons piece rest => cases h

theorem eq_of_look_eq_dir {path dir : List Segment} (h : t.look path = .dir dir) : dir = path := by
  unfold look at h
  split at h
  · cases h
  · split at h
    · exact (Target.dir.inj h).symm
    · cases h

theorem eq_of_look_eq_file {path place : List Segment} {text : String}
    (h : t.look path = .file place text) : place = path ∧ t.file? path = some text := by
  unfold look at h
  split at h
  · rename_i found hfound
    obtain ⟨rfl, rfl⟩ := Target.file.inj h
    exact ⟨rfl, hfound⟩
  · split at h
    · cases h
    · cases h

/-! ### Pieces -/

/-- The piece says something about where a path leads. -/
def speaks (piece : Segment) : Bool :=
  !piece.isEmpty && piece != ['.']

theorem speaks_of_mem_segmentsOf {cs : List Char} {s : Segment} (h : s ∈ Path.segmentsOf cs) :
    speaks s = true :=
  (List.mem_filter.1 h).2

/-- A name that a file may have. -/
structure IsFileName (name : Segment) : Prop where
  slash_not_mem : '/' ∉ name
  speaks : FileTree.speaks name = true
  ne_parent : name ≠ parentSegment
  short : byteLength name ≤ nameLimit

theorem follow_of_silent {piece : Segment} (h : speaks piece = false) (path rest : List Segment) :
    t.follow (.dir path) (piece :: rest) = t.follow (.dir path) rest := by
  have hsilent : (piece.isEmpty || piece == ['.']) = true := by
    unfold speaks at h
    rwa [← Bool.not_eq_true', Bool.not_and, Bool.not_not, bne, Bool.not_not] at h
  rw [follow, if_pos hsilent]

theorem follow_of_speaks {piece : Segment} (h : speaks piece = true) (path rest : List Segment) :
    t.follow (.dir path) (piece :: rest) =
      if piece = parentSegment then t.follow (.dir path.dropLast) rest
      else if nameLimit < byteLength piece then .error .nameTooLong
      else t.follow (t.look (path ++ [piece])) rest := by
  have hnot : ¬ (piece.isEmpty || piece == ['.']) = true := by
    unfold speaks at h
    rw [Bool.not_eq_true, ← Bool.not_eq_true', Bool.not_or]
    exact h
  rw [follow, if_neg hnot]

theorem follow_name {name : Segment} (h : IsFileName name) (path : List Segment) :
    t.follow (.dir path) [name] = .ok (t.look (path ++ [name])) := by
  rw [follow_of_speaks h.speaks, if_neg h.ne_parent, if_neg (Nat.not_lt_of_le h.short), follow]

/-! ### Ways to a directory -/

/-- Pieces that say nothing do not matter on the way to a directory. -/
theorem follow_eq_dir_iff {start dir pieces : List Segment} :
    t.follow (.dir start) (pieces.filter speaks) = .ok (.dir dir) ↔
      t.follow (.dir start) pieces = .ok (.dir dir) := by
  induction pieces generalizing start with
  | nil => rfl
  | cons piece rest ih =>
    cases hspeaks : speaks piece with
    | false =>
      rw [List.filter_cons_of_neg (by rw [hspeaks]; exact Bool.false_ne_true),
        follow_of_silent hspeaks]
      exact ih
    | true =>
      rw [List.filter_cons_of_pos hspeaks, follow_of_speaks hspeaks, follow_of_speaks hspeaks]
      split
      · exact ih
      · split
        · rfl
        · -- The next place has to be a directory for the rest to lead to one.
          constructor
          · intro h
            obtain ⟨next, hnext⟩ := exists_dir_of_follow h
            rw [hnext] at h ⊢
            exact ih.1 h
          · intro h
            obtain ⟨next, hnext⟩ := exists_dir_of_follow h
            rw [hnext] at h ⊢
            exact ih.2 h

theorem eq_foldl_enter_of_follow {start dir segments : List Segment}
    (hspeaks : ∀ s ∈ segments, speaks s = true)
    (h : t.follow (.dir start) segments = .ok (.dir dir)) :
    dir = segments.foldl Path.enter start := by
  induction segments generalizing start with
  | nil =>
    rw [follow, Except.ok.injEq] at h
    exact (Target.dir.inj h).symm
  | cons s rest ih =>
    have hrest : ∀ s ∈ rest, speaks s = true := fun s hs => hspeaks s (List.mem_cons_of_mem _ hs)
    rw [follow_of_speaks (hspeaks s List.mem_cons_self)] at h
    rw [List.foldl_cons, Path.enter]
    split at h
    · rename_i hs
      rw [if_pos hs]
      exact ih hrest h
    · rename_i hs
      rw [if_neg hs]
      split at h
      · cases h
      · obtain ⟨next, hnext⟩ := exists_dir_of_follow h
        rw [hnext] at h
        rw [← eq_of_look_eq_dir hnext]
        exact ih hrest h

/-- Where a path leads to a directory, so does each path above it, to the end of its walk. -/
theorem follow_walk_of_prefix {segments part dir : List Segment}
    (hspeaks : ∀ s ∈ segments, speaks s = true)
    (h : t.follow (.dir []) segments = .ok (.dir dir)) (hpart : part <+: segments) :
    t.follow (.dir []) part = .ok (.dir (Path.walk part)) := by
  obtain ⟨rest, rfl⟩ := hpart
  rw [follow_append] at h
  -- From a failure, a file or a missing place the rest would not lead to a directory.
  cases hmiddle : t.follow (.dir []) part with
  | error fault =>
    rw [hmiddle] at h
    cases h
  | ok middle =>
    rw [hmiddle] at h
    obtain ⟨place, rfl⟩ := exists_dir_of_follow h
    rw [eq_foldl_enter_of_follow (fun s hs => hspeaks s (List.mem_append_left rest hs)) hmiddle]
    rfl

/-! ### Texts -/

/-- An absolute text that leads to a directory leads there by its segments. -/
theorem follow_of_resolve {workDir dir : List Segment} {text : String}
    (habsolute : isAbsolute text.toList = true) (h : t.resolve workDir text = .ok (.dir dir)) :
    t.follow (.dir []) (Path.segmentsOf text.toList) = .ok (.dir dir) := by
  unfold resolve at h
  split at h
  · cases h
  · split at h
    · cases h
    · exact follow_eq_dir_iff.2 h

/-- Where the text of a name in a directory leads. -/
theorem resolve_joinText {workDir place : List Segment} {cs name : List Char}
    (hname : IsFileName name) (habsolute : isAbsolute cs = true)
    (hplace : t.follow (.dir []) (Path.segmentsOf cs) = .ok (.dir place))
    (hshort : byteLength (Path.joinText cs name) ≤ pathLimit) :
    t.resolve workDir (String.ofList (Path.joinText cs name)) =
      .ok (t.look (place ++ [name])) := by
  obtain ⟨front, hsplit, hfront⟩ := Path.splitOn_joinText cs hname.slash_not_mem
  have hstart : isAbsolute (Path.joinText cs name) = true := Path.isAbsolute_joinText habsolute name
  have hway : t.follow (.dir []) front = .ok (.dir place) := by
    rw [← hfront] at hplace
    exact follow_eq_dir_iff.1 hplace
  have hnonempty : (String.ofList (Path.joinText cs name)).isEmpty = false := by
    rw [Bool.eq_false_iff, ne_eq, String.isEmpty_iff]
    intro hempty
    rw [← String.toList_ofList (l := Path.joinText cs name), hempty] at hstart
    cases hstart
  unfold resolve
  rw [hnonempty, String.toList_ofList, if_neg Bool.false_ne_true,
    if_neg (Nat.not_lt_of_le hshort)]
  dsimp only
  rw [if_pos hstart, hsplit, follow_append, hway]
  exact follow_name hname place

/-- A text that ends in a name leads to a file of this name, if to any. -/
theorem getLast?_of_resolve_joinText {workDir place : List Segment} {cs name : List Char}
    {text : String} (hname : IsFileName name)
    (h : t.resolve workDir (String.ofList (Path.joinText cs name)) = .ok (.file place text)) :
    place.getLast? = some name := by
  obtain ⟨front, hsplit, -⟩ := Path.splitOn_joinText cs hname.slash_not_mem
  unfold resolve at h
  rw [String.toList_ofList, hsplit] at h
  split at h
  · cases h
  · split at h
    · cases h
    · dsimp only at h
      rw [follow_append] at h
      cases hfront : t.follow (.dir (if isAbsolute (Path.joinText cs name) = true then []
        else workDir)) front with
      | error fault =>
        rw [hfront] at h
        cases h
      | ok middle =>
        rw [hfront] at h
        cases middle with
        | file path found => cases h
        | missing path => cases h
        | dir path =>
          -- From a directory the name leads to the file that bears it.
          have hlook : t.look (path ++ [name]) = .file place text :=
            Except.ok.inj ((follow_name hname path).symm.trans h)
          rw [(eq_of_look_eq_file hlook).1, List.getLast?_concat]

end FileTree

end CallPolicy
