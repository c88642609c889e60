import CallPolicy.Proofs.Json.Nested
import CallPolicy.Proofs.Nesting
import CallPolicy.Proofs.Text.Lines
import Mathlib.Data.List.Forall2

namespace CallPolicy

open Text

/-!
# Call sites in a list and on lines

Call sites may be written as one list, which a single run of the reader goes through, or on lines,
each of which has a run of its own. Both ways give the same answer.

* `IsEntryText` — an object on one line, which fits into a list.
* `siteEntries?_listText`, `siteEntries?_of_written` — both ways read the entries one by one.
* `AnswersFor` — what the entries, read one by one, amount to: the first entry with an invalid name
  decides, unless an entry anywhere cannot be read at all.
* `readCallSites_listText_eq` — so the list and the lines have the same answer, which is this one.
-/

/-! ### Entries, one by one -/

/-- An entry that stands on its own in a text. -/
def SiteEntry.ofText? (cs : List Char) : Option SiteEntry :=
  Json.parse? cs >>= SiteEntry.ofDatum? 0

/-- An object on one line, which is not nested too deep to stand in a list. -/
structure IsEntryText (cs : List Char) : Prop where
  object : Json.IsObjectText cs
  oneLine : '\n' ∉ cs
  shallow : ∀ d, Json.parse? cs = some d → d.nesting < jsonNestingLimit

theorem IsEntryText.isLine {cs : List Char} (h : IsEntryText cs) : IsLine cs where
  starts := by
    obtain ⟨rest, hrest⟩ := List.head?_eq_some_iff.1 h.object.1
    exact ⟨'{', rest, hrest, by decide⟩
  oneLine := h.oneLine
  last := h.object.getLast?_ne (by decide)

/-- Two readers for each item of a list may take turns, or go through the list one after the
other. -/
theorem mapM_bind_mapM {α β γ : Type} {f : α → Option β} {g g' : β → Option γ} {xs : List α}
    (h : ∀ x ∈ xs, ∀ y, f x = some y → g y = g' y) :
    (xs.mapM f >>= fun ys => ys.mapM g) = xs.mapM fun x => f x >>= g' := by
  induction xs with
  | nil => rfl
  | cons x rest ih =>
    rw [List.forall_mem_cons] at h
    rw [List.mapM_cons, List.mapM_cons, ← ih h.2]
    cases hx : f x with
    | none => rfl
    | some y =>
      show (rest.mapM f >>= fun ys => some (y :: ys)) >>= (fun ys => ys.mapM g) =
        g' y >>= fun z => (rest.mapM f >>= fun ys => ys.mapM g) >>= fun zs => some (z :: zs)
      rw [← h.1 y hx]
      cases rest.mapM f with
      | none =>
        show none = g y >>= fun _ => none
        cases g y <;> rfl
      | some ys =>
        show (y :: ys).mapM g = g y >>= fun z => ys.mapM g >>= fun zs => some (z :: zs)
        rw [List.mapM_cons]
        rfl

/-- A reading of all items is one of each. -/
theorem mapM_cases {α β : Type} (f : α → Option β) (xs : List α) :
    (xs.mapM f = none ∧ ∃ x ∈ xs, f x = none) ∨
      ∃ ys, xs.mapM f = some ys ∧ List.Forall₂ (fun x y => f x = some y) xs ys := by
  induction xs with
  | nil => exact Or.inr ⟨[], rfl, .nil⟩
  | cons x rest ih =>
    rw [List.mapM_cons, List.exists_mem_cons_iff]
    cases hx : f x with
    | none => exact Or.inl ⟨rfl, Or.inl rfl⟩
    | some y =>
      rcases ih with ⟨hnone, hrest⟩ | ⟨ys, hsome, hall⟩
      · rw [hnone]
        exact Or.inl ⟨rfl, Or.inr hrest⟩
      · rw [hsome]
        exact Or.inr ⟨y :: ys, rfl, .cons hx hall⟩

/-- The entries of a list are read one by one. -/
theorem siteEntries?_listText {texts : List (List Char)} (h : ∀ cs ∈ texts, IsEntryText cs) :
    siteEntries? (Json.listText texts) = texts.mapM SiteEntry.ofText? := by
  have hread : Json.parse? (Json.listText texts) = (texts.mapM Json.parse?).map .list :=
    Json.parse?_listText fun cs hcs => (h cs hcs).object
  have hentries : siteEntries? (Json.listText texts) =
      Json.parse? (Json.listText texts) >>= Datum.listOf? (SiteEntry.ofDatum? 1) := rfl
  have hmapM : (texts.mapM Json.parse? >>= fun items => items.mapM (SiteEntry.ofDatum? 1)) =
      texts.mapM SiteEntry.ofText? :=
    mapM_bind_mapM fun cs hcs d hd => SiteEntry.ofDatum?_one_eq ((h cs hcs).shallow d hd)
  rw [hentries, hread, ← hmapM]
  cases texts.mapM Json.parse? <;> rfl

/-- The entries on lines are read one by one. -/
theorem siteEntries?_of_written {texts : List (List Char)} (h : ∀ cs ∈ texts, IsEntryText cs)
    (hne : texts ≠ []) {text : List Char} (hwritten : WrittenByLines texts text) :
    siteEntries? text = texts.mapM SiteEntry.ofText? := by
  obtain ⟨first, rest, rfl⟩ := List.exists_cons_of_ne_nil hne
  have hlines : ∀ cs ∈ first :: rest, IsLine cs := fun cs hcs => (h cs hcs).isLine
  obtain ⟨htrimmed, hprefix⟩ := hwritten.trimStart (hlines first List.mem_cons_self)
  -- The text starts with the brace of the first entry, so it is not taken for a list.
  have hhead : (Text.trimStart text).head? = some '{' := by
    obtain ⟨tail, htail⟩ := List.head?_eq_some_iff.1 (h first List.mem_cons_self).object.1
    obtain ⟨more, hmore⟩ := hprefix
    rw [← hmore, htail]
    rfl
  unfold siteEntries?
  dsimp only
  rw [hhead, if_neg (by decide), htrimmed.filter_lines hlines]
  rfl

/-! ### Answers -/

/-- What the texts of entries amount to, read one by one. -/
inductive AnswersFor (texts : List (List Char)) : Except CallSiteError (List CallSite) → Prop
  /-- Some text has no entry. -/
  | malformed (h : ∃ cs ∈ texts, SiteEntry.ofText? cs = none) : AnswersFor texts (.error .malformed)
  /-- All texts have entries, and this is the first one with an invalid name. -/
  | invalid {before after : List SiteEntry} {e : SiteEntry} {cause : SymbolError}
    (hentries : List.Forall₂ (fun cs e => SiteEntry.ofText? cs = some e) texts
      (before ++ e :: after))
    (hbefore : ∀ earlier ∈ before, ∃ call, earlier.site = .ok call) (he : e.site = .error cause) :
    AnswersFor texts (.error (.invalid before.length cause))
  /-- All texts have entries, and all of these have call sites. -/
  | sites {entries : List SiteEntry} {calls : List CallSite}
    (hentries : List.Forall₂ (fun cs e => SiteEntry.ofText? cs = some e) texts entries)
    (hcalls : List.Forall₂ (fun e call => e.site = .ok call) entries calls) :
    AnswersFor texts (.ok calls)

/-- The first entry with an invalid name decides. -/
theorem sitesFrom_cases (index : Nat) (entries : List SiteEntry) :
    (∃ calls, sitesFrom index entries = .ok calls ∧
      List.Forall₂ (fun e call => e.site = .ok call) entries calls) ∨
    ∃ before e after cause, entries = before ++ e :: after ∧
      (∀ earlier ∈ before, ∃ call, earlier.site = .ok call) ∧ e.site = .error cause ∧
      sitesFrom index entries = .error (.invalid (index + before.length) cause) := by
  induction entries generalizing index with
  | nil => exact Or.inl ⟨[], rfl, .nil⟩
  | cons e rest ih =>
    unfold sitesFrom
    cases hsite : e.site with
    | error cause => exact Or.inr ⟨[], e, rest, cause, rfl, nofun, hsite, rfl⟩
    | ok call =>
      rcases ih (index + 1) with ⟨calls, hcalls, hall⟩ |
        ⟨before, invalid, after, cause, rfl, hbefore, hinvalid, herror⟩
      · refine Or.inl ⟨call :: calls, ?_, .cons hsite hall⟩
        dsimp only
        rw [hcalls]
        rfl
      · refine Or.inr ⟨e :: before, invalid, after, cause, rfl, ?_, hinvalid, ?_⟩
        · exact List.forall_mem_cons.2 ⟨⟨call, hsite⟩, hbefore⟩
        · dsimp only
          rw [herror, List.length_cons]
          show Except.error (CallSiteError.invalid (index + 1 + before.length) cause) = _
          rw [Nat.add_right_comm, Nat.add_assoc]

/-- Entries that are read one by one have this answer. -/
theorem answersFor_of_siteEntries? {texts : List (List Char)} {text : String}
    (h : siteEntries? text.toList = texts.mapM SiteEntry.ofText?) :
    AnswersFor texts (readCallSites text) := by
  unfold readCallSites
  rw [h]
  rcases mapM_cases SiteEntry.ofText? texts with ⟨hnone, hunread⟩ | ⟨entries, hsome, hentries⟩
  · rw [hnone]
    exact .malformed hunread
  · rw [hsome]
    dsimp only
    rcases sitesFrom_cases 0 entries with ⟨calls, hcalls, hall⟩ |
      ⟨before, e, after, cause, rfl, hbefore, he, herror⟩
    · rw [hcalls]
      exact .sites hentries hall
    · rw [herror, Nat.zero_add]
      exact .invalid hentries hbefore he

/-- **Lists and lines.** Call sites that are written as a list and those that are written on lines,
with any line ends and with blank lines anywhere, have the same answer. An entry that cannot be read
makes the whole text malformed, wherever it stands. Otherwise the first entry with an invalid name
is reported with its position, or there is a call site for each entry. -/
theorem readCallSites_listText_eq {texts : List (List Char)} (h : ∀ cs ∈ texts, IsEntryText cs)
    (hne : texts ≠ []) {lines : List Char} (hwritten : WrittenByLines texts lines) :
    readCallSites (String.ofList (Json.listText texts)) = readCallSites (String.ofList lines) ∧
      AnswersFor texts (readCallSites (String.ofList lines)) := by
  have hlist : siteEntries? (String.ofList (Json.listText texts)).toList =
      texts.mapM SiteEntry.ofText? := by
    rw [String.toList_ofList]
    exact siteEntries?_listText h
  have hlines : siteEntries? (String.ofList lines).toList = texts.mapM SiteEntry.ofText? := by
    rw [String.toList_ofList]
    exact siteEntries?_of_written h hne hwritten
  refine ⟨?_, answersFor_of_siteEntries? hlines⟩
  unfold readCallSites
  rw [hlist, hlines]

/-- The text of a call of a function. -/
def functionCall (name : String) : List Char :=
  ("\x7b\"kind\":\"function\",\"invoked\":\"" ++ name ++ "\",\"file\":\"a\",\"line\":1\x7d").toList

/-- Two calls on lines, between blank ones. -/
def twoCalls : List Char :=
  [] ++ ['\n'] ++ (functionCall "f" ++ ['\r', '\n'] ++
    ([' '] ++ ['\n'] ++ (functionCall "()" ++ ['\n'] ++ [])))

/-- The second of two calls has no name, on the fourth line as well as in a list. -/
theorem readCallSites_listText_eq_twoCalls :
    readCallSites (String.ofList (Json.listText [functionCall "f", functionCall "()"])) =
        readCallSites (String.ofList twoCalls) ∧
      readCallSites (String.ofList twoCalls) = .error (.invalid 1 .empty) := by
  have htext : ∀ cs ∈ [functionCall "f", functionCall "()"], Json.IsObjectText cs ∧
      '\n' ∉ cs ∧ (Json.parse? cs).map Datum.nesting = some 1 := by
    decide +kernel
  have hentries : ∀ cs ∈ [functionCall "f", functionCall "()"], IsEntryText cs := by
    intro cs hcs
    obtain ⟨hobject, hline, hnesting⟩ := htext cs hcs
    refine ⟨hobject, hline, fun d hd => ?_⟩
    rw [hd] at hnesting
    rw [Option.some.inj hnesting]
    decide
  have hwritten : WrittenByLines [functionCall "f", functionCall "()"] twoCalls :=
    .blank rfl (by decide) (by decide) (.line _ (by decide) (.blank rfl (by decide) (by decide)
      (.line _ (by decide) (.lastBlank rfl (by decide)))))
  refine ⟨(readCallSites_listText_eq hentries (List.cons_ne_nil _ _) hwritten).1, ?_⟩
  have herror : (match readCallSites (String.ofList twoCalls) with
      | .error cause => some cause
      | .ok _ => none) = some (.invalid 1 .empty) := by
    decide +kernel
  cases hread : readCallSites (String.ofList twoCalls) with
  | error cause =>
    rw [hread] at herror
    rw [Option.some.inj herror]
  | ok calls =>
    rw [hread] at herror
    cases herror

end CallPolicy
