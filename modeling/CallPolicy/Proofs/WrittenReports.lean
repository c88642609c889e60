import CallPolicy.Argument.Document
import CallPolicy.Proofs.Json.RoundTrip
import CallPolicy.Report.Layout
import CallPolicy.Settings
import Mathlib.Data.List.Forall2

namespace CallPolicy

/-!
# Written reports are read back

Reports, their diagnostics, settings and arguments are written as JSON tables. A table is read by
the names of its entries, so a report is also read back from what is printed of it, where the counts
stand behind its fields.

* `Record.read?_table` — which record a table is read as.
* `Report.ofDatum?_toDatum`, and the same for the other types — reading undoes writing.
* `Report.isExact_toDatum`, and the same for the other types — what is written has a text in JSON
  that is read as it was.
* `Report.parse?_render` — what is printed of a report is read as the report.
* `Report.roundTrips_json` — all of them are read from their texts as they were written.
-/

namespace Record

/-! ### Records of a table -/

theorem find?_isNamed_plain (names : List String) (name : String) :
    (names.map Field.plain).find? (·.isNamed name) =
      if name ∈ names then some (.plain name) else none := by
  induction names with
  | nil => rfl
  | cons first rest ih =>
    by_cases hfirst : first = name
    · simp [Field.isNamed, Field.plain, hfirst]
    · simp [Field.isNamed, Field.plain, hfirst, Ne.symm hfirst] at ih ⊢
      exact ih

/-- The entries under the names of fields are those of the record, as they stand. -/
theorem known_plain (names : List String) (entries : List (String × Datum)) :
    known (names.map Field.plain) entries = entries.filter (·.1 ∈ names) := by
  unfold known
  induction entries with
  | nil => rfl
  | cons entry rest ih =>
    obtain ⟨name, value⟩ := entry
    rw [List.filterMap_cons, ih]
    dsimp only
    rw [find?_isNamed_plain]
    by_cases hname : name ∈ names
    · simp [hname, Field.plain]
    · simp [hname]

/-- A table is read as its entries under the names of fields, if none of these occurs twice. -/
theorem read?_table (names : List String) {entries : List (String × Datum)} {record : Record}
    (hrecord : entries.filter (·.1 ∈ names) = record) (hnodup : (record.map (·.1)).Nodup)
    (conventions : Conventions) :
    read? conventions (names.map Field.plain) false (.table entries) = some record := by
  have hknown : known (names.map Field.plain) entries = record :=
    (known_plain names entries).trans hrecord
  show (if ((known (names.map Field.plain) entries).map (·.1)).Nodup then
    some (known (names.map Field.plain) entries) else none) = _
  rw [hknown, if_pos hnodup]

end Record

/-! ### Reading undoes writing -/

theorem Datum.word?_toNat (w : UInt64) : Datum.word? (.int w.toNat) = some w := by
  have hlt : w.toNat < UInt64.size := w.toNat_lt
  simp [Datum.word?, hlt]

theorem Severity.ofDatum?_toDatum (conventions : Conventions) (s : Severity) :
    ofDatum? conventions s.toDatum = some s := s.ofName?_name

theorem Location.ofDatum?_toDatum (l : Location) : ofDatum? l.toDatum = some l := by
  have hread : Record.read? .json fields false l.toDatum =
      some [("file", .text l.file), ("line", .int l.line.toNat)] :=
    Record.read?_table ["file", "line"] rfl (by simp) .json
  simp [ofDatum?, hread, Record.required?, List.lookup_cons, Datum.text?, Datum.word?_toNat]

/-- The entries of a diagnostic, in the order of its fields. -/
def Diagnostic.entries (d : Diagnostic) : List (String × Datum) :=
  [("identifier", .text d.identifier), ("rule", .text d.rule),
    ("severity", d.severity.toDatum), ("location", d.location.toDatum),
    ("message", .text d.message)] ++ d.tip.toList.map fun tip => ("tip", .text tip)

theorem Diagnostic.ofDatum?_toDatum (d : Diagnostic) : ofDatum? d.toDatum = some d := by
  have hread : Record.read? .json fields false (.table d.entries) = some d.entries := by
    refine Record.read?_table ["identifier", "rule", "severity", "location", "message", "tip"] ?_ ?_
      .json
    · unfold entries
      cases d.tip <;> rfl
    · unfold entries
      cases d.tip <;> simp
  have hidentifier : Record.required? d.entries "identifier" Datum.text? = some d.identifier := rfl
  have hrule : Record.required? d.entries "rule" Datum.text? = some d.rule := rfl
  have hseverity : Record.required? d.entries "severity" (Severity.ofDatum? .json) =
      some d.severity := Severity.ofDatum?_toDatum .json d.severity
  have hlocation : Record.required? d.entries "location" Location.ofDatum? = some d.location :=
    Location.ofDatum?_toDatum d.location
  have hmessage : Record.required? d.entries "message" Datum.text? = some d.message := rfl
  -- The entry of the tip is there exactly if there is a tip.
  have htip : Record.optional? d.entries "tip" Datum.text? = some d.tip := by
    unfold entries
    cases d.tip <;> rfl
  show ofDatum? (.table d.entries) = some d
  simp [ofDatum?, hread, hidentifier, hrule, hseverity, hlocation, hmessage, htip]

/-- A list is read item by item, if its items are. -/
theorem Datum.listOf?_map {α : Type} {toDatum : α → Datum} {ofDatum? : Datum → Option α}
    (h : ∀ x, ofDatum? (toDatum x) = some x) (xs : List α) :
    Datum.listOf? ofDatum? (.list (xs.map toDatum)) = some xs := by
  show (xs.map toDatum).mapM ofDatum? = some xs
  induction xs with
  | nil => rfl
  | cons x rest ih =>
    rw [List.map_cons, List.mapM_cons, h, ih]
    rfl

/-- A report is read from its entries, whatever else stands behind them under other names. -/
theorem Report.ofDatum?_entries (r : Report) {more : List (String × Datum)}
    (hmore : ∀ e ∈ more, e.1 ∉ ["diagnostics", "call_sites_checked"]) :
    ofDatum? (.table (r.entries ++ more)) = some r := by
  have hnone : more.filter (·.1 ∈ ["diagnostics", "call_sites_checked"]) = [] := by
    rw [List.filter_eq_nil_iff]
    intro e he
    simpa using hmore e he
  have hread : Record.read? .json fields false (.table (r.entries ++ more)) = some r.entries := by
    refine Record.read?_table ["diagnostics", "call_sites_checked"] ?_ ?_ .json
    · rw [List.filter_append, hnone, List.append_nil]
      rfl
    · simp [entries]
  have hdiagnostics : Record.required? r.entries "diagnostics" (Datum.listOf? Diagnostic.ofDatum?) =
      some r.diagnostics := Datum.listOf?_map Diagnostic.ofDatum?_toDatum r.diagnostics
  have hchecked : Record.required? r.entries "call_sites_checked" Datum.word? =
      some r.callSitesChecked := Datum.word?_toNat r.callSitesChecked
  simp [ofDatum?, hread, hdiagnostics, hchecked]

theorem Report.ofDatum?_toDatum (r : Report) : ofDatum? r.toDatum = some r := by
  have hnone : ∀ e ∈ ([] : List (String × Datum)), e.1 ∉ ["diagnostics", "call_sites_checked"] :=
    nofun
  have h := r.ofDatum?_entries hnone
  rwa [List.append_nil] at h

theorem EngineSettings.ofDatum?_toDatum (conventions : Conventions) (s : EngineSettings) :
    ofDatum? conventions s.toDatum = some s := by
  have hread : Record.read? conventions fields false s.toDatum =
      some [("root", .text s.root), ("fail-on", s.failOn.toDatum)] :=
    Record.read?_table ["root", "fail-on"] rfl (by simp) conventions
  simp [ofDatum?, hread, Record.default?, List.lookup_cons, Datum.text?,
    Severity.ofDatum?_toDatum]

theorem Settings.ofDatum?_toDatum (conventions : Conventions) (s : Settings) :
    ofDatum? conventions s.toDatum = some s := by
  have hread : Record.read? conventions fields false s.toDatum =
      some [("engine", s.engine.toDatum)] :=
    Record.read?_table ["engine"] rfl (by simp) conventions
  simp [ofDatum?, hread, Record.default?, EngineSettings.ofDatum?_toDatum]

namespace Argument

theorem intOf?_toInt (n : Int64) : intOf? (.int n.toInt) = some n := by
  have hbounds : Int64.minValue.toInt ≤ n.toInt ∧ n.toInt ≤ Int64.maxValue.toInt :=
    ⟨n.minValue_le_toInt, n.toInt_le⟩
  rw [intOf?, if_pos hbounds, Int64.ofInt_toInt]

theorem ofDatum?_type (type : String) :
    ofDatum? (.table [("type", .text type)]) = withoutValue? type := by
  have hread : Record.read? .json [.plain "type", .plain "value"] false
      (.table [("type", .text type)]) = some [("type", .text type)] :=
    Record.read?_table ["type", "value"] rfl (by simp) .json
  simp [ofDatum?, hread, Record.required?, List.lookup_cons, Conventions.case?]

theorem ofDatum?_typed (type : String) (value : Datum) :
    ofDatum? (.table [("type", .text type), ("value", value)]) = withValue? type value := by
  have hread : Record.read? .json [.plain "type", .plain "value"] false
      (.table [("type", .text type), ("value", value)]) =
        some [("type", .text type), ("value", value)] :=
    Record.read?_table ["type", "value"] rfl (by simp) .json
  simp [ofDatum?, hread, Record.required?, List.lookup_cons, Conventions.case?]

theorem ofDatum?_toDatum (a : Argument) : ofDatum? a.toDatum = some a := by
  cases a with
  | null | unknown => exact ofDatum?_type _
  | bool b => exact ofDatum?_typed "bool" (.bool b)
  | float x => exact ofDatum?_typed "float" (.float x)
  | text s => exact ofDatum?_typed "str" (.text s)
  | int n =>
    have hvalue : withValue? "int" (.int n.toInt) = some (int n) := by
      show (intOf? (.int n.toInt)).map int = _
      rw [intOf?_toInt]
      rfl
    exact (ofDatum?_typed "int" (.int n.toInt)).trans hvalue

end Argument

/-! ### Texts in JSON -/

/-- The value is read from what is written of it, on one line and on several. -/
def Json.RoundTrips {α : Type} (toDatum : α → Datum) (ofDatum? : Datum → Option α) (x : α) : Prop :=
  (Json.parse? (Json.compact (toDatum x)).toList >>= ofDatum?) = some x ∧
    (Json.parse? (Json.pretty (toDatum x)).toList >>= ofDatum?) = some x

namespace Json

theorem roundTrips_of_isExact {α : Type} {toDatum : α → Datum} {ofDatum? : Datum → Option α} {x : α}
    (hexact : isExact (toDatum x) = true) (hread : ofDatum? (toDatum x) = some x) :
    RoundTrips toDatum ofDatum? x := by
  have hself := readsAs_self hexact
  constructor
  · rw [compact, String.toList_ofList, parse?_write hself]
    exact hread
  · rw [pretty, String.toList_ofList, parse?_write hself]
    exact hread

theorem toNat_le_maxWord (w : UInt64) : w.toNat ≤ maxWord :=
  Nat.le_pred_of_lt w.toNat_lt

theorem areExact_map {α : Type} {toDatum : α → Datum} (h : ∀ x, isExact (toDatum x) = true)
    (xs : List α) : areExact (xs.map toDatum) = true := by
  induction xs with
  | nil => rfl
  | cons x rest ih =>
    rw [List.map_cons, areExact, h, ih]
    rfl

end Json

open Json

theorem Location.isExact_toDatum (l : Location) : isExact l.toDatum = true := by
  simp [toDatum, isExact, entriesAreExact, toNat_le_maxWord]

theorem Diagnostic.isExact_toDatum (d : Diagnostic) : isExact d.toDatum = true := by
  have hseverity : isExact d.severity.toDatum = true := rfl
  have hlocation := d.location.isExact_toDatum
  cases htip : d.tip <;> simp [toDatum, htip, isExact, entriesAreExact, hseverity, hlocation]

theorem Report.isExact_toDatum (r : Report) : isExact r.toDatum = true := by
  have hdiagnostics := areExact_map Diagnostic.isExact_toDatum r.diagnostics
  simp [toDatum, entries, isExact, entriesAreExact, hdiagnostics, toNat_le_maxWord]

theorem EngineSettings.isExact_toDatum (s : EngineSettings) : isExact s.toDatum = true := by
  have hfailOn : isExact s.failOn.toDatum = true := rfl
  simp [toDatum, isExact, entriesAreExact, hfailOn]

theorem Settings.isExact_toDatum (s : Settings) : isExact s.toDatum = true := by
  simp [toDatum, isExact, entriesAreExact, s.engine.isExact_toDatum]

theorem Argument.isExact_toDatum {a : Argument} (h : ∀ x, a ≠ .float x) :
    isExact a.toDatum = true := by
  cases a with
  | int n =>
    have hmin : -9223372036854775808 ≤ n.toInt := n.le_toInt
    have hmax : n.toInt ≤ maxWord := Int.le_trans n.toInt_le (by decide)
    simp [toDatum, isExact, entriesAreExact, hmin, hmax]
  | float x => exact absurd rfl (h x)
  | null | bool | text | unknown => simp [toDatum, isExact, entriesAreExact]

/-- With the counts behind it, a report is read with something under their names. -/
theorem Report.readsAs_withCounts (r : Report) :
    ∃ more : List (String × Datum), (∀ e ∈ more, e.1 ∉ ["diagnostics", "call_sites_checked"]) ∧
      ReadsAs r.toDatumWithCounts (.table (r.entries ++ more)) := by
  have hentries : entriesAreExact r.entries = true := r.isExact_toDatum
  refine ⟨[("errors", (Numeral.ofInt (r.count .error)).datum),
    ("warnings", (Numeral.ofInt (r.count .warning)).datum),
    ("infos", (Numeral.ofInt (r.count .info)).datum)], by simp, .table ?_⟩
  apply List.rel_append (forall₂_entries_self hentries)
  exact .cons ⟨rfl, readsAs_int _⟩ (.cons ⟨rfl, readsAs_int _⟩ (.cons ⟨rfl, readsAs_int _⟩ .nil))

/-- What is printed of a report is read as the report; the counts are left out. -/
theorem Report.parse?_render (r : Report) :
    (parse? (r.render .json).toList >>= ofDatum?) = some r := by
  obtain ⟨more, hmore, hreads⟩ := r.readsAs_withCounts
  have hspaces : ∀ c ∈ ['\n'], LexState.isSpace c = true := List.forall_mem_singleton.2 rfl
  have hparse : parse? (r.render .json).toList = some (.table (r.entries ++ more)) := by
    show parse? (pretty r.toDatumWithCounts ++ "\n").toList = _
    rw [String.toList_append, pretty, String.toList_ofList]
    exact parse?_write_append hreads (some 2) hspaces
  rw [hparse]
  exact r.ofDatum?_entries hmore

/-- **Reports are read as they were written**: on one line, on several, and printed with their
counts; and so are locations, diagnostics, settings, and all arguments but doubles. -/
theorem Report.roundTrips_json :
    (∀ r : Report, RoundTrips Report.toDatum Report.ofDatum? r ∧
      (parse? (r.render .json).toList >>= Report.ofDatum?) = some r) ∧
    (∀ l : Location, RoundTrips Location.toDatum Location.ofDatum? l) ∧
    (∀ d : Diagnostic, RoundTrips Diagnostic.toDatum Diagnostic.ofDatum? d) ∧
    (∀ s : EngineSettings, RoundTrips EngineSettings.toDatum (EngineSettings.ofDatum? .json) s) ∧
    (∀ s : Settings, RoundTrips Settings.toDatum (Settings.ofDatum? .json) s) ∧
    ∀ a : Argument, (∀ x, a ≠ .float x) → RoundTrips Argument.toDatum Argument.ofDatum? a := by
  refine ⟨fun r => ⟨?_, r.parse?_render⟩, fun l => ?_, fun d => ?_, fun s => ?_, fun s => ?_,
    fun a ha => ?_⟩
  · exact roundTrips_of_isExact r.isExact_toDatum r.ofDatum?_toDatum
  · exact roundTrips_of_isExact l.isExact_toDatum l.ofDatum?_toDatum
  · exact roundTrips_of_isExact d.isExact_toDatum d.ofDatum?_toDatum
  · exact roundTrips_of_isExact s.isExact_toDatum (s.ofDatum?_toDatum .json)
  · exact roundTrips_of_isExact s.isExact_toDatum (s.ofDatum?_toDatum .json)
  · exact roundTrips_of_isExact (Argument.isExact_toDatum ha) a.ofDatum?_toDatum

/-- Three diagnostics: with an empty tip, with none, and with a tip and texts that are escaped. -/
def Report.ofThreeTips : Report where
  diagnostics := [
    ⟨"disallowed.function", "exec()", .error, ⟨"src/a.php", 1⟩,
      "Calling exec() is forbidden.", some ""⟩,
    ⟨"disallowed.method", "Foo::bar", .info, ⟨"src\\b.php", 18446744073709551615⟩,
      "Calling Foo::bar() is forbidden.", none⟩,
    ⟨"", "É", .warning, ⟨"😀\n.php", 0⟩, "\"\t\u0000", some "use \"é\""⟩]
  callSitesChecked := 18446744073709551615

/-- The report of the three diagnostics is read as it was written, and so is a text. -/
theorem Report.roundTrips_json_threeTips :
    (RoundTrips Report.toDatum Report.ofDatum? ofThreeTips ∧
      (parse? (ofThreeTips.render .json).toList >>= Report.ofDatum?) = some ofThreeTips) ∧
    ofThreeTips.diagnostics.map (·.tip) = [some "", none, some "use \"é\""] ∧
    (∀ x, Argument.text "\"é\n" ≠ .float x) ∧
      RoundTrips Argument.toDatum Argument.ofDatum? (.text "\"é\n") := by
  obtain ⟨hreports, -, -, -, -, harguments⟩ := Report.roundTrips_json
  exact ⟨hreports ofThreeTips, rfl, nofun, harguments _ nofun⟩

end CallPolicy
