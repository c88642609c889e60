import CallPolicy.Proofs.CanonicalNames
import CallPolicy.Proofs.Evaluation

namespace CallPolicy

open Text

/-!
# What messages say

A message names the candidate that a rule is about, what the code names, and the pattern, each
as it was spelled but for its decoration. Whether the code is quoted depends on the keys of the
two symbols, and whether the pattern is quoted on the spellings.

* `Symbol.display_eq` — a symbol is shown as it was spelled.
* `sentence` — the message about a call, made of the names in it.
* `Finding.message_eq_sentence` — a finding says the sentence of the names that it was made from.
* `Engine.evaluate_messages` — so do all diagnostics of a call, in the place of the call.
-/

/-- The name without its decoration. -/
def undecorated (name : String) : String :=
  String.ofList (undecorate name.toList)

/-- A symbol is shown as it was spelled, without decoration. -/
theorem Symbol.display_eq {name : String} {kind : SymbolKind} {s : Symbol}
    (h : Symbol.parse name kind = .ok s) : s.display = undecorated name := by
  rw [undecorated, ← toList_display_of_parse h, String.ofList_toList]

/-- A pattern is kept as it was spelled, without decoration. -/
theorem SymbolPattern.text_eq {text : String} {p : SymbolPattern} (h : compile text = .ok p) :
    p.text = undecorated text := by
  obtain ⟨scope, member, hp⟩ := compile_eq_ok h
  rw [undecorated, ← hp.text_eq, String.ofList_toList]

/-- The message that `candidate` is forbidden by `pattern`. The code names `invoked`, which is
quoted if it is `aliased`. -/
def sentence (candidate invoked pattern : String) (aliased : Bool) (reason : String) : String :=
  "Calling " ++ candidate ++ "()" ++ (if aliased then " (as " ++ invoked ++ "())" else "") ++
    " is forbidden" ++ (if reason = "" then "." else ", " ++ reason) ++
    if candidate = pattern then "" else " [" ++ candidate ++ "() matches " ++ pattern ++ "()]"

namespace Finding

/-- The code names the candidate by another key. -/
def isAliased (f : Finding) : Bool :=
  f.call.invoked.key != f.candidate.key

theorem aliasNote?_eq (f : Finding) :
    aliasNote? f.call.invoked f.candidate =
      if f.isAliased then some ("(as " ++ f.call.invoked.displayCall ++ ")") else none := by
  unfold aliasNote? isAliased Symbol.same bne
  cases f.call.invoked.key == f.candidate.key <;> rfl

/-- With their brackets, the names of a symbol and a pattern are equal exactly if they are so
without. -/
theorem displayCall_eq_iff (p : SymbolPattern) (s : Symbol) :
    p.displayCall = s.displayCall ↔ s.display = p.text := by
  unfold SymbolPattern.displayCall Symbol.displayCall
  rw [String.append_left_inj]
  exact eq_comm

/-- A finding says the sentence of what it shows. -/
theorem message_eq_sentence (f : Finding) :
    f.message = sentence f.candidate.display f.call.invoked.display f.found.pattern.text
      f.isAliased f.found.rule.message := by
  have hnote := f.aliasNote?_eq
  unfold message sentence
  simp only [displayCall_eq_iff]
  rw [Symbol.displayCall] at hnote ⊢
  rw [SymbolPattern.displayCall]
  -- What is left to show is that the parts may be put together in any order.
  have hquote : ∀ candidate pattern : String,
      " [" ++ (candidate ++ "()") ++ " matches " ++ (pattern ++ "()") ++ "]" =
        " [" ++ candidate ++ "() matches " ++ pattern ++ "()]" :=
    fun candidate pattern => String.toList_inj.1 (by simp)
  have hclause : ∀ invoked : String,
      " " ++ ("(as " ++ (invoked ++ "()") ++ ")") = " (as " ++ invoked ++ "())" :=
    fun invoked => String.toList_inj.1 (by simp)
  simp only [toString, hquote]
  rw [hnote]
  cases f.isAliased with
  | true =>
    rw [if_pos rfl, if_pos rfl, ← hclause]
    simp only [String.append_assoc]
  | false =>
    rw [if_neg Bool.false_ne_true, if_neg Bool.false_ne_true]
    simp only [String.append_assoc]

/-- The diagnostic says the sentence of the names that the finding was made from, whatever their
decoration, and gives the place of the call. -/
structure IsToldBy (f : Finding) (call : CallSite) (d : Diagnostic) : Prop where
  location : d.location = ⟨call.file, call.line⟩
  message : ∀ (candidate invoked pattern : String) (kind kind' : SymbolKind),
    Symbol.parse candidate kind = .ok f.candidate →
    Symbol.parse invoked kind' = .ok call.invoked →
    SymbolPattern.compile pattern = .ok f.found.pattern →
    d.message = sentence (undecorated candidate) (undecorated invoked) (undecorated pattern)
      (call.invoked.key != f.candidate.key) f.found.rule.message

theorem isToldBy_diagnostic (f : Finding) : f.IsToldBy f.call f.diagnostic := by
  refine ⟨rfl, fun candidate invoked pattern kind kind' hcandidate hinvoked hpattern => ?_⟩
  rw [← Symbol.display_eq hcandidate, ← Symbol.display_eq hinvoked,
    ← SymbolPattern.text_eq hpattern]
  exact f.message_eq_sentence

end Finding

/-- **What messages say.** A symbol is shown as the name that it was parsed from, without
decoration. The diagnostics of a call are told by its reports, one by one: the candidate is named,
and what the code names if its key is another one, and the pattern if its spelling is another
one. -/
theorem Engine.evaluate_messages (e : Engine) (call : CallSite) :
    (∀ (name : String) (kind : SymbolKind) (s : Symbol), Symbol.parse name kind = .ok s →
      s.display.toList = undecorate name.toList) ∧
    (∀ k f, (k, f) ∈ e.reports call ↔ e.Reports call k f) ∧
    List.Forall₂ (fun report d => report.2.IsToldBy call d) (e.reports call)
      (e.evaluate call) := by
  refine ⟨fun name kind s => Symbol.toList_display_of_parse, e.mem_reports_iff call, ?_⟩
  rw [(e.yields_reports call).diagnostics, List.forall₂_map_right_iff, List.forall₂_same]
  rintro ⟨k, f⟩ hmem
  have hcall : f.call = call := ((e.mem_reports_iff call k f).1 hmem).ofCall
  rw [← hcall]
  exact f.isToldBy_diagnostic

/-- The engine with a rule about the methods of `Base` whose names start with `x`. -/
def forbiddenInBase : Engine where
  root := ⟨⟨true, []⟩⟩
  rules := ⟨[{ Rule.blank .method with
    calls := [⟨"Base::x*", .members (.inClass "base") "x"⟩], message := "use y" }]⟩
  settings := .initial

/-- What ` \Base::X() ` spells. -/
def baseX : Symbol := ⟨.instanceMethod, .inClass "Base", "X", "base::x"⟩

/-- A call of `Sub::x`, which is declared in `Base`. -/
def callOfSubX : CallSite where
  invoked := ⟨.instanceMethod, .inClass "Sub", "x", "sub::x"⟩
  declaring := baseX
  alsoDeclaredIn := []
  caller := none
  file := "src\\a.php"
  line := 22
  arguments := []

/-- All of the names are quoted, and none of their decoration. -/
theorem Engine.evaluate_messages_aliased :
    Symbol.parse " \\Base::X() " .instanceMethod = .ok baseX ∧
    Symbol.parse "\\Sub::x" .instanceMethod = .ok callOfSubX.invoked ∧
    SymbolPattern.compile "Base::x*()" = .ok ⟨"Base::x*", .members (.inClass "base") "x"⟩ ∧
    ∃ d, forbiddenInBase.evaluate callOfSubX = [d] ∧ d.location = ⟨"src\\a.php", 22⟩ ∧
      d.message =
        "Calling Base::X() (as Sub::x()) is forbidden, use y [Base::X() matches Base::x*()]" := by
  have hcandidate : Symbol.parse " \\Base::X() " .instanceMethod = .ok baseX := by decide +kernel
  have hinvoked : Symbol.parse "\\Sub::x" .instanceMethod = .ok callOfSubX.invoked := by
    decide +kernel
  have hpattern : SymbolPattern.compile "Base::x*()" =
      .ok ⟨"Base::x*", .members (.inClass "base") "x"⟩ := by
    decide +kernel
  have hreports : ∃ f, forbiddenInBase.reports callOfSubX = [(0, f)] ∧ f.candidate = baseX ∧
      f.found.pattern = ⟨"Base::x*", .members (.inClass "base") "x"⟩ ∧
      f.found.rule.message = "use y" := ⟨_, rfl, rfl, rfl, rfl⟩
  obtain ⟨f, hf, hfound, hby, hreason⟩ := hreports
  obtain ⟨-, -, htold⟩ := evaluate_messages forbiddenInBase callOfSubX
  rw [hf, List.forall₂_cons_left_iff] at htold
  obtain ⟨d, rest, hd, hrest, hall⟩ := htold
  obtain rfl := List.forall₂_nil_left_iff.1 hrest
  have hmessage := hd.message _ _ _ _ _ (hfound ▸ hcandidate) hinvoked (hby ▸ hpattern)
  rw [hfound, hreason] at hmessage
  refine ⟨hcandidate, hinvoked, hpattern, d, hall, hd.location, hmessage.trans ?_⟩
  decide +kernel

end CallPolicy
