import CallPolicy.Json.Parser
import CallPolicy.Proofs.Json.Brackets
import Mathlib.Data.Option.Basic

namespace CallPolicy.Json

/-!
# Objects in a list

An object means the same on its own and among the items of a list: the machine that reads it never
looks below the frames that the object itself has opened.

* `Machine.Inside` — a machine, and the same one on top of frames that were open before.
* `Machine.step?_inside`, `Machine.run?_inside` — both take the same steps until the object ends.
* `parseFrom?_object` — where a value is expected, an object is read as it is on its own.
* `parse?_listText` — so a list of objects is read item by item.
-/

namespace Machine

/-! ### Machines on top of open frames -/

/-- A machine, and the same one on top of `base`. Where the first one is done, the other one has its
value in `base`. -/
inductive Inside (base : List Frame) : Machine → Machine → Prop
  | opened {stack : List Frame} {phase : Phase} (h : stack ≠ []) :
    Inside base ⟨stack, phase⟩ ⟨stack ++ base, phase⟩
  | done (d : Datum) : Inside base ⟨[], .done d⟩ (feed d base)

variable {base : List Frame}

theorem feed_inside (d : Datum) (stack : List Frame) :
    Inside base (feed d stack) (feed d (stack ++ base)) := by
  cases stack with
  | nil => exact .done d
  | cons f rest => cases f <;> exact .opened (List.cons_ne_nil _ _)

theorem value?_inside (stack : List Frame) (t : Token) :
    Option.Rel (Inside base) (value? stack t) (value? (stack ++ base) t) := by
  cases t with
  | openList => exact .some (.opened (List.cons_ne_nil _ _))
  | openTable => exact .some (.opened (List.cons_ne_nil _ _))
  | scalar d => exact .some (feed_inside d stack)
  | text s => cases s <;> exact .some (feed_inside _ stack)
  | closeList | closeTable | comma | colon => exact .none

theorem key?_inside (f : Frame) (rest : List Frame) (t : Token) :
    Option.Rel (Inside base) (key? (f :: rest) t) (key? (f :: rest ++ base) t) := by
  cases t with
  | text key =>
    cases f with
    | list items => exact .none
    | table entries key' => exact .some (.opened (List.cons_ne_nil _ _))
  | _ => exact .none

theorem closeList?_inside (f : Frame) (rest : List Frame) :
    Option.Rel (Inside base) (closeList? (f :: rest)) (closeList? (f :: rest ++ base)) := by
  cases f with
  | list items => exact .some (feed_inside _ rest)
  | table entries key => exact .none

theorem closeTable?_inside (f : Frame) (rest : List Frame) :
    Option.Rel (Inside base) (closeTable? (f :: rest)) (closeTable? (f :: rest ++ base)) := by
  cases f with
  | list items => exact .none
  | table entries key => exact .some (feed_inside _ rest)

theorem step?_valueOrEnd (stack : List Frame) {t : Token} (h : t ≠ .closeList) :
    step? ⟨stack, .valueOrEnd⟩ t = value? stack t := by
  cases t with
  | closeList => exact absurd rfl h
  | _ => rfl

theorem step?_keyOrEnd (stack : List Frame) {t : Token} (h : t ≠ .closeTable) :
    step? ⟨stack, .keyOrEnd⟩ t = key? stack t := by
  cases t with
  | closeTable => exact absurd rfl h
  | _ => rfl

/-- While a frame of its own is open, a machine does not look below. -/
theorem step?_inside {stack : List Frame} (h : stack ≠ []) (phase : Phase) (t : Token) :
    Option.Rel (Inside base) (step? ⟨stack, phase⟩ t) (step? ⟨stack ++ base, phase⟩ t) := by
  obtain ⟨f, rest, rfl⟩ := List.exists_cons_of_ne_nil h
  cases phase with
  | value => exact value?_inside _ t
  | valueOrEnd =>
    by_cases ht : t = .closeList
    · subst ht
      exact closeList?_inside f rest
    · rw [step?_valueOrEnd _ ht, step?_valueOrEnd _ ht]
      exact value?_inside (f :: rest) t
  | key => exact key?_inside f rest t
  | keyOrEnd =>
    by_cases ht : t = .closeTable
    · subst ht
      exact closeTable?_inside f rest
    · rw [step?_keyOrEnd _ ht, step?_keyOrEnd _ ht]
      exact key?_inside f rest t
  | colon =>
    cases t with
    | colon => exact .some (.opened h)
    | _ => exact .none
  | commaOrEnd =>
    cases t with
    | closeList => exact closeList?_inside f rest
    | closeTable => exact closeTable?_inside f rest
    | comma => cases f <;> exact .some (.opened h)
    | _ => exact .none
  | done d => exact .none

/-! ### How many frames are open -/

theorem length_feed (d : Datum) (stack : List Frame) :
    (feed d stack).stack.length = stack.length := by
  cases stack with
  | nil => rfl
  | cons f rest => cases f <;> rfl

theorem length_of_value? {stack : List Frame} {t : Token} {next : Machine}
    (h : value? stack t = some next) : next.stack.length = t.depthFrom stack.length := by
  cases t with
  | openList | openTable =>
    cases h
    rfl
  | scalar d =>
    cases h
    exact length_feed d stack
  | text s =>
    cases s <;> cases h <;> exact length_feed _ stack
  | closeList | closeTable | comma | colon => cases h

theorem length_of_key? {stack : List Frame} {t : Token} {next : Machine}
    (h : key? stack t = some next) : next.stack.length = t.depthFrom stack.length := by
  cases t with
  | text key =>
    unfold key? at h
    dsimp only at h
    split at h
    · cases h
      rfl
    · cases h
  | _ => cases h

theorem length_of_closeList? {stack : List Frame} {next : Machine}
    (h : closeList? stack = some next) : next.stack.length = stack.length - 1 := by
  unfold closeList? at h
  split at h
  · cases h
    exact length_feed _ _
  · cases h

theorem length_of_closeTable? {stack : List Frame} {next : Machine}
    (h : closeTable? stack = some next) : next.stack.length = stack.length - 1 := by
  unfold closeTable? at h
  split at h
  · cases h
    exact length_feed _ _
  · cases h

/-- A machine has a frame open for each bracket that is. -/
theorem length_of_step? {stack : List Frame} {phase : Phase} {t : Token} {next : Machine}
    (h : step? ⟨stack, phase⟩ t = some next) : next.stack.length = t.depthFrom stack.length := by
  cases phase with
  | value => exact length_of_value? h
  | valueOrEnd =>
    by_cases ht : t = .closeList
    · subst ht
      exact length_of_closeList? h
    · rw [step?_valueOrEnd _ ht] at h
      exact length_of_value? h
  | key => exact length_of_key? h
  | keyOrEnd =>
    by_cases ht : t = .closeTable
    · subst ht
      exact length_of_closeTable? h
    · rw [step?_keyOrEnd _ ht] at h
      exact length_of_key? h
  | colon =>
    cases t with
    | colon =>
      cases h
      rfl
    | _ => cases h
  | commaOrEnd =>
    cases t with
    | closeList => exact length_of_closeList? h
    | closeTable => exact length_of_closeTable? h
    | comma =>
      cases stack with
      | nil => cases h
      | cons f rest =>
        cases f <;> cases h <;> rfl
    | _ => cases h
  | done d => cases h

/-! ### Runs -/

/-- A machine that closes all of its frames with its last token leaves its value behind. -/
theorem run?_inside {stack : List Frame} (phase : Phase) {tokens : List Token}
    (hstack : stack ≠ []) (h : closesIn stack.length tokens = true) (more : List Token) :
    run? ⟨stack ++ base, phase⟩ (tokens ++ more) =
      run? ⟨stack, phase⟩ tokens >>= result? >>= fun d => run? (feed d base) more := by
  induction tokens generalizing stack phase with
  | nil => cases h
  | cons t rest ih =>
    have hrel : Option.Rel (Inside base) _ _ := step?_inside hstack phase t
    show (step? ⟨stack ++ base, phase⟩ t >>= fun m => run? m (rest ++ more)) =
      (step? ⟨stack, phase⟩ t >>= fun m => run? m rest) >>= result? >>= _
    cases hstep : step? ⟨stack, phase⟩ t with
    | none =>
      rw [hstep] at hrel
      generalize step? ⟨stack ++ base, phase⟩ t = outer at hrel
      cases hrel
      rfl
    | some next =>
      have hlength := length_of_step? hstep
      rw [hstep] at hrel
      generalize step? ⟨stack ++ base, phase⟩ t = outer at hrel
      obtain ⟨hinside⟩ := hrel
      rw [closesIn, ← hlength] at h
      cases hinside with
      | opened hopen =>
        rw [if_neg (by simpa using hopen)] at h
        exact ih _ hopen h
      | done d =>
        obtain rfl := List.isEmpty_iff.1 h
        rfl

end Machine

/-! ### Objects where a value is expected -/

/-- The value of a text that goes on from where a machine stands. -/
def parseFrom? (m : Machine) (cs : List Char) : Option Datum :=
  tokens? cs >>= m.run? >>= Machine.result?

open LexState Machine

/-- The brace of an object opens a table wherever a value is expected. -/
theorem run?_openTable {phase : Phase} (hphase : phase = .value ∨ phase = .valueOrEnd)
    (base : List Frame) (tokens : List Token) :
    run? ⟨base, phase⟩ (.openTable :: tokens) =
      run? ⟨.table [] none :: base, .keyOrEnd⟩ tokens := by
  rcases hphase with rfl | rfl <;> rfl

/-- Where a value is expected, an object is read as it is on its own. -/
theorem parseFrom?_object {cs : List Char} (h : IsObjectText cs) {base : List Frame} {phase : Phase}
    (hphase : phase = .value ∨ phase = .valueOrEnd) (rest : List Char) :
    parseFrom? ⟨base, phase⟩ (cs ++ rest) =
      parse? cs >>= fun d => parseFrom? (feed d base) rest := by
  have hwhole : tokens? (cs ++ rest) = between.read? cs >>= fun p =>
      (p.1.run? rest).map (p.2 ++ ·) := run?_append between cs rest
  have hown : tokens? cs = between.read? cs >>= fun p => (p.1.run? []).map (p.2 ++ ·) := by
    rw [← run?_append, List.append_nil]
    rfl
  unfold parseFrom? parse?
  rw [hwhole, hown]
  cases hread : between.read? cs with
  | none => rfl
  | some p =>
    obtain ⟨last, tokens⟩ := p
    obtain ⟨rfl, inner, rfl, hcloses⟩ := exists_of_isObjectText h hread
    have hinner : run? start (.openTable :: (inner ++ [])) =
        run? ⟨[.table [] none], .keyOrEnd⟩ inner := by
      rw [List.append_nil]
      exact run?_openTable (Or.inl rfl) [] inner
    show ((between.run? rest).map (.openTable :: inner ++ ·) >>= run? ⟨base, phase⟩ >>= result?) =
      (run? start (.openTable :: (inner ++ [])) >>= result?) >>= fun d =>
        between.run? rest >>= run? (feed d base) >>= result?
    rw [hinner]
    cases between.run? rest with
    | none =>
      show none = _
      cases run? ⟨[.table [] none], .keyOrEnd⟩ inner >>= result? <;> rfl
    | some more =>
      -- The machine of the object runs on top of the frames that were open before it.
      show (run? ⟨base, phase⟩ (.openTable :: inner ++ more) >>= result?) =
        (run? ⟨[.table [] none], .keyOrEnd⟩ inner >>= result?) >>= fun d =>
          run? (feed d base) more >>= result?
      rw [List.cons_append, run?_openTable hphase]
      have hrun : run? ⟨.table [] none :: base, .keyOrEnd⟩ (inner ++ more) =
          run? ⟨[.table [] none], .keyOrEnd⟩ inner >>= result? >>=
            fun d => run? (feed d base) more := by
        have hopen : [Frame.table [] none] ≠ [] := List.cons_ne_nil _ _
        exact run?_inside .keyOrEnd hopen hcloses more
      rw [hrun, bind_assoc]

/-! ### Lists of objects -/

/-- The text of a list of items. -/
def listText (items : List (List Char)) : List Char :=
  '[' :: [','].intercalate items ++ [']']

theorem intercalate_cons (separator cs : List Char) (rest : List (List Char)) :
    separator.intercalate (cs :: rest) = cs ++ rest.flatMap (separator ++ ·) := by
  induction rest generalizing cs with
  | nil => rw [List.intercalate_singleton, List.flatMap_nil, List.append_nil]
  | cons next rest ih =>
    rw [List.intercalate_cons_cons, ih, List.flatMap_cons]
    simp only [List.append_assoc]

/-- A character that is a token of its own takes the machine one step further. -/
theorem parseFrom?_cons {m next : Machine} {c : Char} {t : Token}
    (hc : start? c = some (between, [t])) (ht : m.step? t = some next) (cs : List Char) :
    parseFrom? m (c :: cs) = parseFrom? next cs := by
  unfold parseFrom? tokens?
  show ((start? c >>= fun p => p.1.run? cs >>= fun more => some (p.2 ++ more)) >>=
      m.run? >>= result?) =
    (between.run? cs >>= next.run? >>= result?)
  rw [hc]
  show ((between.run? cs >>= fun more => some (t :: more)) >>= m.run? >>= result?) = _
  cases between.run? cs with
  | none => rfl
  | some more =>
    show (m.step? t >>= fun m' => run? m' more) >>= result? = run? next more >>= result?
    rw [ht]
    rfl

/-- The items that follow the first one, up to the end of the list. -/
theorem parseFrom?_commaOrEnd {texts : List (List Char)} (h : ∀ cs ∈ texts, IsObjectText cs)
    (items : List Datum) :
    parseFrom? ⟨[.list items], .commaOrEnd⟩ (texts.flatMap (',' :: ·) ++ [']']) =
      (texts.mapM parse?).map fun more => .list (items.reverse ++ more) := by
  induction texts generalizing items with
  | nil =>
    show some (Datum.list items.reverse) = some (.list (items.reverse ++ []))
    rw [List.append_nil]
  | cons cs rest ih =>
    rw [List.forall_mem_cons] at h
    have hcomma : parseFrom? ⟨[.list items], .commaOrEnd⟩
        (',' :: (cs ++ (rest.flatMap (',' :: ·) ++ [']']))) =
        parseFrom? ⟨[.list items], .value⟩ (cs ++ (rest.flatMap (',' :: ·) ++ [']'])) :=
      parseFrom?_cons rfl rfl _
    rw [List.flatMap_cons, List.append_assoc, List.cons_append, hcomma,
      parseFrom?_object h.1 (Or.inl rfl), List.mapM_cons]
    cases parse? cs with
    | none => rfl
    | some d =>
      show parseFrom? ⟨[.list (d :: items)], .commaOrEnd⟩ _ =
        (rest.mapM parse? >>= fun more => some (d :: more)).map _
      rw [ih h.2]
      cases rest.mapM parse? with
      | none => rfl
      | some more =>
        show some (Datum.list ((d :: items).reverse ++ more)) =
          some (.list (items.reverse ++ d :: more))
        rw [List.reverse_cons, List.append_assoc, List.singleton_append]

/-- A list of objects is read item by item. -/
theorem parse?_listText {texts : List (List Char)} (h : ∀ cs ∈ texts, IsObjectText cs) :
    parse? (listText texts) = (texts.mapM parse?).map .list := by
  have hopen : ∀ cs, parse? ('[' :: cs) = parseFrom? ⟨[.list []], .valueOrEnd⟩ cs :=
    fun cs => parseFrom?_cons rfl rfl cs
  unfold listText
  rw [List.cons_append, hopen]
  cases texts with
  | nil => rfl
  | cons cs rest =>
    rw [List.forall_mem_cons] at h
    rw [intercalate_cons, List.append_assoc, parseFrom?_object h.1 (Or.inr rfl), List.mapM_cons]
    cases parse? cs with
    | none => rfl
    | some d =>
      show parseFrom? ⟨[.list [d]], .commaOrEnd⟩ (rest.flatMap (',' :: ·) ++ [']']) =
        (rest.mapM parse? >>= fun more => some (d :: more)).map _
      rw [parseFrom?_commaOrEnd h.2]
      cases rest.mapM parse? <;> rfl

end CallPolicy.Json
