import QueryLint.Proofs.Pattern.Spelling
import QueryLint.Sql.Clause
import QueryLint.Sql.NamedQuery

/-! The parts of a query in its different spellings. Main statements: `tableRefs_small`, a query refers
to the same tables; `clauses_small` and `namedQueries_small`, its clauses and named queries stand in the
same places, and their bodies are respelled. -/
namespace QueryLint.Sql
set_option autoImplicit false
open Text

/-! ## Parentheses and quotes -/

theorem isQuote_toLower (c : Char) : isQuote c.toLower = isQuote c := toLower_congr (by decide) c

theorem isBare_toLower (quote : Option Char) (c : Char) : isBare quote c.toLower = isBare quote c := by
  rw [isBare, isBare, isQuote_toLower]

theorem open_toLower (c : Char) : (c.toLower == '(') = (c == '(') := toLower_beq (by decide) c

theorem close_toLower (c : Char) : (c.toLower == ')') = (c == ')') := toLower_beq (by decide) c

def Quoting (quote : Option Char) : Prop := ∀ q, quote = some q → isQuote q = true

theorem quoting_none : Quoting none := fun _ h => nomatch h

theorem isAlpha_of_isQuote {q : Char} (h : isQuote q = true) : q.isAlpha = false := by
  simp only [isQuote, Bool.or_eq_true, beq_iff_eq] at h
  rcases h with rfl | rfl <;> rfl

theorem quoteAfter_toLower {quote : Option Char} (h : Quoting quote) (c : Char) :
    quoteAfter quote c.toLower = quoteAfter quote c ∧ Quoting (quoteAfter quote c) := by
  cases quote with
  | some q =>
    have hq : (c.toLower == q) = (c == q) := toLower_beq (isAlpha_of_isQuote (h q rfl)) c
    refine ⟨by simp only [quoteAfter, hq], ?_⟩
    rw [quoteAfter]
    split
    · exact quoting_none
    · exact h
  | none =>
    refine ⟨toLower_congr (g := quoteAfter none) (by decide) c, ?_⟩
    rw [quoteAfter]
    split
    · rename_i hc
      intro q hq
      obtain rfl := Option.some.inj hq
      exact hc
    · exact quoting_none

theorem closingFrom_small {quote : Option Char} (h : Quoting quote) (depth : Int) (position : Nat)
    (t : Text) : closingFrom depth quote position (small t) = closingFrom depth quote position t := by
  induction t generalizing depth quote position with
  | nil => rfl
  | cons c rest ih =>
    obtain ⟨hafter, hquoting⟩ := quoteAfter_toLower h c
    simp only [small_cons, closingFrom, isBare_toLower, hafter, open_toLower, close_toLower, ih h, ih hquoting]

theorem closingParen?_small (t : Text) (start : Nat) :
    closingParen? (small t) start = closingParen? t start := by
  rw [closingParen?, drop_small, closingFrom_small quoting_none, closingParen?]

theorem topLevelFrom_small {quote : Option Char} (h : Quoting quote) (depth : Nat) (t : Text) :
    topLevelFrom depth quote (small t) = small (topLevelFrom depth quote t) := by
  induction t generalizing depth quote with
  | nil => rfl
  | cons c rest ih =>
    obtain ⟨hafter, hquoting⟩ := quoteAfter_toLower h c
    have hblank : ∀ P : Prop, [Decidable P] →
        (if P then c.toLower else ' ') = Char.toLower (if P then c else ' ') := by
      intro P _
      split <;> rfl
    simp only [small_cons, topLevelFrom, isBare_toLower, hafter, open_toLower, close_toLower, ih h, ih hquoting,
      hblank]
    split
    · split
      · rfl
      · split <;> rfl
    · rfl

theorem topLevel_small (t : Text) : topLevel (small t) = small (topLevel t) :=
  topLevelFrom_small quoting_none 0 t

theorem splitFrom_small {separates : Char → Bool}
    (hs : ∀ c : Char, separates c.toLower = separates c) {quote : Option Char} (h : Quoting quote)
    (depth : Nat) (piece t : Text) : splitFrom separates depth quote (small piece) (small t)
      = (splitFrom separates depth quote piece t).map small := by
  induction t generalizing depth quote piece with
  | nil => simp [splitFrom]
  | cons c rest ih =>
    obtain ⟨hafter, hquoting⟩ := quoteAfter_toLower h c
    have hfresh := ih h 0 []
    have hlonger : c.toLower :: small piece = small (c :: piece) := rfl
    rw [small_nil] at hfresh
    rw [small_cons, splitFrom, splitFrom]
    simp only [isBare_toLower, hafter, open_toLower, close_toLower, hs, hlonger, ih h, ih hquoting,
      hfresh, reverse_small]
    split
    · split
      · rfl
      · split
        · rfl
        · split <;> rfl
    · rfl

theorem splitTopLevel_small {separates : Char → Bool}
    (hs : ∀ c : Char, separates c.toLower = separates c) (t : Text) :
    splitTopLevel separates (small t) = (splitTopLevel separates t).map small :=
  splitFrom_small hs quoting_none 0 [] t

/-! ## Calls -/

theorem callHead_caseless (name : Text) : (callHead name).caseless = true := rfl

theorem headAt?_small (name : Text) (before : Option Char) (rest : Text) :
    headAt? name (before.map Char.toLower) (small rest) = headAt? name before rest := by
  have hmatch := Pattern.matchAt?_small (callHead_caseless name) ⟨before, 0, rest⟩
  simp only [headAt?, closingParen?_small, ← hmatch]
  rfl

theorem mapCallsFrom_small (name : Text) {f : Text → Text} (hf : ∀ t, f (small t) = small (f t))
    (before : Option Char) (rest : Text) :
    mapCallsFrom name f (before.map Char.toLower) (small rest)
      = small (mapCallsFrom name f before rest) := by
  fun_induction mapCallsFrom name f before rest with
  | case1 before =>
    rw [small_nil, mapCallsFrom]
  | case2 before c tail h ih =>
    have hhead := (headAt?_small name before (c :: tail)).trans h
    rw [small_cons] at hhead ⊢
    rw [mapCallsFrom]
    simp only [hhead]
    rw [small_cons, ← ih]
    rfl
  | case3 before c tail head h passed ih =>
    have hhead := (headAt?_small name before (c :: tail)).trans h
    have hpassed : c.toLower :: (small tail).take (head - 1) = small passed := by
      rw [take_small, ← small_cons]
    rw [small_cons] at hhead ⊢
    rw [mapCallsFrom]
    simp only [hhead]
    rw [hpassed, getLast?_small, drop_small, small_append, ← ih]
  | case4 before c tail head stop h made ih =>
    have hhead := (headAt?_small name before (c :: tail)).trans h
    have hmade : f (c.toLower :: (small tail).take (stop - 1)) = small made := by
      rw [take_small, ← small_cons, hf]
    have hbefore : (small made).getLast?.or (before.map Char.toLower)
        = (made.getLast?.or before).map Char.toLower := by
      rw [getLast?_small, Option.map_or]
    rw [small_cons] at hhead ⊢
    rw [mapCallsFrom]
    simp only [hhead]
    rw [hmade, hbefore, drop_small, small_append, ← ih]

theorem maskCall_small (name t : Text) : maskCall name (small t) = small (maskCall name t) := by
  refine mapCallsFrom_small name (fun call => ?_) none t
  rw [length_small, blanks, small, List.map_replicate]
  rfl

theorem maskCalls_small (names : List Text) (t : Text) :
    maskCalls names (small t) = small (maskCalls names t) := by
  induction names generalizing t with
  | nil => rfl
  | cons name names ih =>
    rw [maskCalls, List.foldl_cons, maskCall_small]
    exact ih (maskCall name t)

/-! ## Clauses -/

def Clause.small (c : Clause) : Clause := ⟨c.start, Text.small c.body⟩

theorem clauseEnd_small {terminator : Pattern} (ht : terminator.caseless = true)
    {quote : Option Char} (h : Quoting quote) (depth : Nat) (before : Option Char) (position : Nat)
    (t : Text) : clauseEnd terminator depth quote (before.map Char.toLower) position (small t)
      = clauseEnd terminator depth quote before position t := by
  induction t generalizing depth quote before position with
  | nil => rfl
  | cons c rest ih =>
    obtain ⟨hafter, hquoting⟩ := quoteAfter_toLower h c
    have hsemicolon : (c.toLower == ';') = (c == ';') := toLower_beq (by decide) c
    have hword : (before.map Char.toLower).any isWord = before.any isWord := by
      cases before <;> simp
    have hmatch := Pattern.matchAt?_small ht ⟨before, position, c :: rest⟩
    -- The next character has this one before it, so the hypothesis is taken for respelled neighbours.
    have hstep : ∀ {quote}, Quoting quote → ∀ depth,
        clauseEnd terminator depth quote (some c.toLower) (position + 1) (small rest)
          = clauseEnd terminator depth quote (some c) (position + 1) rest :=
      fun hq depth => ih hq depth (some c) (position + 1)
    rw [small_cons, clauseEnd, clauseEnd, ← hmatch]
    simp only [isBare_toLower, hafter, open_toLower, close_toLower, hsemicolon, hword, hstep h,
      hstep hquoting]
    rfl

theorem clauseAt_small {terminator : Pattern} (ht : terminator.caseless = true) (sql : Text)
    (start : Nat) : clauseAt terminator (small sql) start = (clauseAt terminator sql start).small := by
  have hend := clauseEnd_small ht quoting_none 0 (Cursor.seek sql start).before
    (Cursor.seek sql start).position (Cursor.seek sql start).rest
  rw [clauseAt, Cursor.seek_small, slice_small]
  simp only [Cursor.small, hend]
  rfl

theorem clauses_small {keyword terminator : Pattern} (hk : keyword.caseless = true)
    (ht : terminator.caseless = true) (sql : Text) :
    clauses keyword terminator (small sql) = (clauses keyword terminator sql).map Clause.small := by
  rw [clauses, Pattern.all_small hk, clauses, List.map_map]
  exact List.map_congr_left fun m _ => clauseAt_small ht sql m.span.stop

theorem whereClauses_small (sql : Text) :
    whereClauses (small sql) = (whereClauses sql).map Clause.small := clauses_small rfl rfl sql

theorem joinConditions_small (sql : Text) :
    joinConditions (small sql) = (joinConditions sql).map Clause.small := by
  rw [joinConditions, Pattern.first?_small rfl, joinConditions]
  cases joinKeyword.first? sql with
  | none => rfl
  | some join =>
    dsimp only
    rw [clauses_small rfl rfl, List.filter_map]
    rfl

/-! ## Tables -/

theorem plainIdentifier_small (name : Text) : plainIdentifier (small name) = plainIdentifier name := by
  rw [plainIdentifier, trimBy_small name (fun c => toLower_beq (by decide) c), lower_small,
    plainIdentifier]

theorem isComparison_small (t : Text) (m : Match) : isComparison (small t) m = isComparison t m := by
  rw [isComparison, Match.groupText_small, lower_small, Pattern.firstWithin?_small rfl, isComparison]

theorem aliasAt?_small (t : Text) (position : Nat) :
    aliasAt? (small t) position = aliasAt? t position := by
  simp only [aliasAt?, Cursor.seek_small, Pattern.matchAt?_small (p := aliasAfter) rfl,
    Match.groupText_small, plainIdentifier_small]

theorem qualifiedName_caseless : qualifiedName.caseless = true := by decide

theorem openParen_caseless : openParen.caseless = true := by decide

theorem nameDot_caseless : nameDot.caseless = true := by decide

theorem listComma_caseless : listComma.caseless = true := by decide

theorem tableRefAt?_small (t : Text) (m : Match) : tableRefAt? (small t) m = tableRefAt? t m := by
  have hplain : plainIdentifier ∘ small = plainIdentifier := funext plainIdentifier_small
  simp only [tableRefAt?, isComparison_small, Cursor.seek_small,
    Pattern.matchAt?_small qualifiedName_caseless, Pattern.matchAt?_small openParen_caseless,
    Match.text_small, Pattern.pieces_small nameDot_caseless, List.map_map, hplain, aliasAt?_small]

/-- A query refers to the same tables in every spelling. -/
theorem tableRefs_small (sql : Text) : tableRefs (small sql) = tableRefs sql := by
  rw [tableRefs, maskCalls_small, Pattern.all_small rfl, tableRefs]
  congr 1
  funext m
  exact tableRefAt?_small _ m

/-! ## Named queries -/

def NamedQuery.small (q : NamedQuery) : NamedQuery := { q with body := Text.small q.body }

theorem namedQueryAt?_small (sql : Text) (position : Nat) :
    namedQueryAt? (small sql) position = (namedQueryAt? sql position).map NamedQuery.small := by
  rw [namedQueryAt?, Cursor.seek_small, Pattern.matchAt?_small rfl, namedQueryAt?]
  cases blockHead.matchAt? (Cursor.seek sql position) with
  | none => rfl
  | some head =>
    simp only [closingParen?_small]
    cases closingParen? sql (head.span.stop - 1) with
    | none => rfl
    | some stop =>
      simp only [Match.groupText_small, plainIdentifier_small, slice_small]
      rfl

theorem namedQueriesFrom_small (sql : Text) (position : Nat) :
    namedQueriesFrom (small sql) position
      = (namedQueriesFrom sql position).map NamedQuery.small := by
  have hspan : ∀ block : NamedQuery, block.small.span = block.span := fun _ => rfl
  fun_induction namedQueriesFrom sql position with
  | case1 position h =>
    rw [namedQueriesFrom, namedQueryAt?_small, h]
    rfl
  | case2 position block h hcomma =>
    rw [namedQueriesFrom, namedQueryAt?_small, h]
    simp only [Option.map_some, Cursor.seek_small, Pattern.matchAt?_small listComma_caseless, hspan,
      hcomma]
    rfl
  | case3 position block h comma hcomma hcond ih =>
    rw [namedQueriesFrom, namedQueryAt?_small, h]
    simp only [Option.map_some, Cursor.seek_small, Pattern.matchAt?_small listComma_caseless, hspan,
      hcomma, length_small, if_pos hcond, ih, List.map_cons]
  | case4 position block h comma hcomma hcond =>
    rw [namedQueriesFrom, namedQueryAt?_small, h]
    simp only [Option.map_some, Cursor.seek_small, Pattern.matchAt?_small listComma_caseless, hspan,
      hcomma, length_small, if_neg hcond]
    rfl

theorem withClauses_small (sql : Text) :
    withClauses (small sql) = (withClauses sql).map (List.map NamedQuery.small) := by
  have hblocks : ((withKeyword.all sql).map fun m => namedQueriesFrom (small sql) m.span.stop)
      = ((withKeyword.all sql).map fun m => namedQueriesFrom sql m.span.stop).map
          (List.map NamedQuery.small) := by
    rw [List.map_map]
    exact List.map_congr_left fun m _ => namedQueriesFrom_small sql m.span.stop
  rw [withClauses, Pattern.all_small rfl, hblocks, List.filter_map, withClauses]
  congr 2
  funext blocks
  simp only [Function.comp_apply, List.isEmpty_map]

theorem namedQueries_small (sql : Text) :
    namedQueries (small sql) = (namedQueries sql).map NamedQuery.small := by
  rw [namedQueries, withClauses_small, namedQueries, List.map_flatten]

theorem queryNames_small (sql : Text) : queryNames (small sql) = queryNames sql := by
  rw [queryNames, namedQueries_small, List.map_map, queryNames]
  rfl

end QueryLint.Sql
