import QueryLint.Checks.Join
import QueryLint.Proofs.Sql.TableWord

/-! Checks that look at all references of a query to tables. The references are read in the order of the
text, so the first one of a table, or of a database, is the leftmost. Main statements:
`repeatedTableScan_leftmost`, which of the tables that are read often is reported; and
`crossDatabaseJoin_second`, which databases are counted and where the second one is reached. -/
namespace QueryLint
set_option autoImplicit false

/-! ## References in the order of the text -/

namespace Sql
open Text Shape

theorem start_of_tableRefAt? {t : Text} {m : Match} (hm : m.span.stop ≤ t.length) {r : TableRef}
    (h : tableRefAt? t m = some r) : r.span.start = m.span.stop := by
  rw [tableRefAt?_eq] at h
  split at h
  · exact nomatch h
  · exact (namedAt?_starts h hm).1

/-- Each name begins after those before it, since it follows a FROM or JOIN of its own. -/
theorem tableRefs_increasing (sql : Text) :
    (tableRefs sql).Pairwise fun a b => a.span.start < b.span.start := by
  rw [tableRefs, List.pairwise_filterMap]
  have hstops := fromOrJoin.all_stops_pairwise (by decide) (maskCalls callsWithFrom sql)
  refine hstops.imp_of_mem fun {m n} hm hn hlt a ha b hb => ?_
  rwa [start_of_tableRefAt? (Pattern.of_mem_all hm).stop_le_length ha,
    start_of_tableRefAt? (Pattern.of_mem_all hn).stop_le_length hb]

/-! ## The database of a reference -/

/-- The name has three parts, and the first one is the database. -/
def TableRef.InDatabase (r : TableRef) (database : Text) : Prop :=
  ∃ schema table, r.parts = [database, schema, table]

theorem TableRef.database?_eq_some_iff {r : TableRef} {database : Text} :
    r.database? = some database ↔ r.InDatabase database := by
  rw [TableRef.database?, TableRef.InDatabase]
  split
  · rename_i first schema table hparts
    simp [hparts]
  · rename_i hparts
    constructor
    · exact fun h => nomatch h
    · rintro ⟨schema, table, h⟩
      exact absurd h (hparts _ _ _)

/-- The databases of some references, each as often as a name of three parts has it in front. -/
def namedDatabases (refs : List TableRef) : List Text :=
  refs.filterMap fun r => if r.parts.length = 3 then r.parts.head? else none

theorem filterMap_database? (refs : List TableRef) :
    refs.filterMap TableRef.database? = namedDatabases refs := by
  refine List.filterMap_congr fun r _ => ?_
  rw [TableRef.database?]
  split
  · rename_i hparts
    rw [hparts]
    rfl
  · rename_i hparts
    rw [if_neg]
    intro hlength
    obtain ⟨database, schema, table, h⟩ := List.length_eq_three.mp hlength
    exact hparts _ _ _ h

theorem TableRef.database?_eq_none_iff {r : TableRef} : r.database? = none ↔ ∀ d, ¬r.InDatabase d := by
  simp only [Option.eq_none_iff_forall_ne_some, ne_eq, database?_eq_some_iff]

end Sql

namespace Checks
open Sql

/-! ## Tables that are read often -/

/-- A table is read often if no named query has its name and at least three references do. -/
def ReadOften (sql name : Text) : Prop :=
  (∀ b ∈ namedQueries sql, b.name ≠ name) ∧ 3 ≤ ((tableRefs sql).map TableRef.name).count name

theorem contains_queryNames_eq_false {sql name : Text} :
    (queryNames sql).contains name = false ↔ ∀ b ∈ namedQueries sql, b.name ≠ name := by
  rw [← Bool.not_eq_true, List.contains_iff_mem, queryNames, List.mem_eraseDups, List.mem_map]
  simp only [not_exists, not_and, ne_eq]

/-- Of a table that no named query hides, every reference is counted. -/
theorem referenceCount_storedTables {sql name : Text} (h : ∀ b ∈ namedQueries sql, b.name ≠ name) :
    referenceCount (storedTables sql) name = ((tableRefs sql).map TableRef.name).count name := by
  have hstored : ∀ r ∈ tableRefs sql,
      (r.name == name && !(queryNames sql).contains r.name) = (r.name == name) := by
    intro r _
    cases hname : r.name == name with
    | false => rfl
    | true => rw [eq_of_beq hname, contains_queryNames_eq_false.mpr h]; rfl
  rw [referenceCount, storedTables, List.filter_filter, List.filter_congr hstored, List.count_eq_countP,
    List.countP_map, List.countP_eq_length_filter]
  rfl

theorem mem_storedTables {sql : Text} {r : TableRef} :
    r ∈ storedTables sql ↔ r ∈ tableRefs sql ∧ ∀ b ∈ namedQueries sql, b.name ≠ r.name := by
  rw [storedTables, List.mem_filter, Bool.not_eq_true', contains_queryNames_eq_false]

/-- The references that are searched are those to the tables that are read often. -/
theorem readOften_iff {sql : Text} {r : TableRef} (h : r ∈ storedTables sql) :
    ReadOften sql r.name ↔ referenceCount (storedTables sql) r.name ≥ repeatedScanThreshold := by
  have hhidden := (mem_storedTables.mp h).2
  rw [ReadOften, and_iff_right hhidden, referenceCount_storedTables hhidden]
  rfl

theorem exists_mem_storedTables {sql name : Text} (h : ReadOften sql name) :
    ∃ r ∈ storedTables sql, r.name = name := by
  obtain ⟨hhidden, hcount⟩ := h
  obtain ⟨r, hr, rfl⟩ := List.mem_map.mp (List.count_pos_iff.mp (Nat.lt_of_lt_of_le (by decide) hcount))
  exact ⟨r, mem_storedTables.mpr ⟨hr, hhidden⟩, rfl⟩

/-- The check reports just if a table is read often. Of the references to such tables it reports the
leftmost one: it names the table, its parts with points between them, and states how many references
there are to it. -/
theorem repeatedTableScan_leftmost (sql : Text) :
    (repeatedTableScan sql ≠ [] ↔ ∃ name, ReadOften sql name) ∧
    ∀ f ∈ repeatedTableScan sql, repeatedTableScan sql = [f] ∧ ∃ r ∈ tableRefs sql, ∃ name times,
      name = List.intercalate ['.'] r.parts ∧
      times = ((tableRefs sql).map TableRef.name).count name ∧
      ReadOften sql name ∧
      (∀ r' ∈ tableRefs sql, ReadOften sql r'.name → r.span.start ≤ r'.span.start) ∧
      f.rule = "repeated-table-scan" ∧
      f.title = s!"Table '{String.ofList name}' scanned {times} times" ∧
      f.message =
        s!"'{String.ofList name}' is referenced {times} times in this query. Each reference is a separate "
          ++ "scan unless the optimizer can share it." ∧
      f.offset = some ⟨r.span.start, r.span.stop⟩ := by
  rw [repeatedTableScan]
  cases hfound : repeatedScan? (storedTables sql) with
  | none =>
    refine ⟨⟨fun h => absurd rfl h, ?_⟩, fun f hf => absurd hf List.not_mem_nil⟩
    rintro ⟨name, hoften⟩
    obtain ⟨r, hr, rfl⟩ := exists_mem_storedTables hoften
    have hfew := List.find?_eq_none.mp hfound r hr
    rw [decide_eq_true_iff] at hfew
    exact absurd ((readOften_iff hr).mp hoften) hfew
  | some r =>
    obtain ⟨hmany, before, after, hsplit, hbefore⟩ := List.find?_eq_some_iff_append.mp hfound
    have hr : r ∈ storedTables sql := List.mem_of_find?_eq_some hfound
    have hoften : ReadOften sql r.name := (readOften_iff hr).mpr (of_decide_eq_true hmany)
    refine ⟨iff_of_true (List.cons_ne_nil _ _) ⟨r.name, hoften⟩, fun f hf => ?_⟩
    obtain rfl := List.mem_singleton.mp hf
    refine ⟨rfl, r, (mem_storedTables.mp hr).1, r.name, referenceCount (storedTables sql) r.name, rfl,
      referenceCount_storedTables hoften.1, hoften, fun r' hr' hoften' => ?_, rfl, rfl, rfl, rfl⟩
    have hstored : r' ∈ storedTables sql := mem_storedTables.mpr ⟨hr', hoften'.1⟩
    have hincreasing : (storedTables sql).Pairwise fun a b => a.span.start < b.span.start :=
      (tableRefs_increasing sql).filter _
    have hmany' := decide_eq_true ((readOften_iff hstored).mp hoften')
    rw [hsplit] at hstored hincreasing
    rcases List.mem_append.mp hstored with hmem | hmem
    · have hfew := hbefore r' hmem
      rw [hmany'] at hfew
      exact nomatch hfew
    · rcases List.mem_cons.mp hmem with rfl | hmem
      · exact Nat.le_refl _
      · exact Nat.le_of_lt ((List.pairwise_cons.mp (List.pairwise_append.mp hincreasing).2.1).1 r' hmem)

-- Both tables are read three times, and `s.t` reaches the threshold first.
example : repeatedTableScan "SELECT * FROM u JOIN s.t JOIN s.t JOIN s.t JOIN u JOIN u".toList
    = [(repeatedScanAdvice "u" 3).located ⟨14, 15⟩] := by decide +kernel

/-! ## Tables of several databases -/

/-- The names are those that occur, each once and in the order in which they occur first. -/
structure ListsOnce (names occurring : List Text) : Prop where
  mem_iff : ∀ name, name ∈ names ↔ name ∈ occurring
  ordered : names.Pairwise fun a b => occurring.idxOf a < occurring.idxOf b

theorem idxOf_lt_idxOf_of_filter {l : List Text} {p : Text → Bool} {a b : Text} (ha : p a = true)
    (hb : p b = true) (h : (l.filter p).idxOf a < (l.filter p).idxOf b) : l.idxOf a < l.idxOf b := by
  induction l with
  | nil => exact absurd h (Nat.lt_irrefl _)
  | cons c l ih =>
    by_cases hc : p c = true
    · rw [List.filter_cons_of_pos hc] at h
      have hcb : c ≠ b := by
        rintro rfl
        rw [List.idxOf_cons_self] at h
        exact Nat.not_lt_zero _ h
      rw [List.idxOf_cons_ne _ hcb] at h ⊢
      rcases eq_or_ne c a with rfl | hca
      · rw [List.idxOf_cons_self]
        exact Nat.succ_pos _
      · rw [List.idxOf_cons_ne _ hca] at h ⊢
        exact Nat.succ_lt_succ (ih (Nat.lt_of_succ_lt_succ h))
    · rw [List.filter_cons_of_neg hc] at h
      have hca : c ≠ a := by
        rintro rfl
        exact hc ha
      have hcb : c ≠ b := by
        rintro rfl
        exact hc hb
      rw [List.idxOf_cons_ne _ hca, List.idxOf_cons_ne _ hcb]
      exact Nat.succ_lt_succ (ih h)

theorem listsOnce_eraseDups (l : List Text) : ListsOnce l.eraseDups l := by
  refine ⟨fun name => List.mem_eraseDups, ?_⟩
  -- the first name is taken out everywhere before the rest is listed
  induction hn : l.length using Nat.strongRecOn generalizing l with
  | ind n ih =>
    cases l with
    | nil => exact List.Pairwise.nil
    | cons a l =>
      have hshort : (l.filter fun b => !b == a).length < n :=
        hn ▸ Nat.lt_succ_of_le (List.length_filter_le _ l)
      have hother : ∀ b ∈ (l.filter fun b => !b == a).eraseDups, (!b == a) = true :=
        fun b hb => (List.mem_filter.mp (List.mem_eraseDups.mp hb)).2
      have hne : ∀ b ∈ (l.filter fun b => !b == a).eraseDups, a ≠ b := by
        rintro b hb rfl
        simpa using hother a hb
      rw [List.eraseDups_cons, List.pairwise_cons]
      refine ⟨fun b hb => ?_, (ih _ hshort _ rfl).imp_of_mem fun {b c} hb hc hlt => ?_⟩
      · rw [List.idxOf_cons_self, List.idxOf_cons_ne _ (hne b hb)]
        exact Nat.succ_pos _
      · rw [List.idxOf_cons_ne _ (hne b hb), List.idxOf_cons_ne _ (hne c hc)]
        exact Nat.succ_lt_succ (idxOf_lt_idxOf_of_filter (hother b hb) (hother c hc) hlt)

/-- Before the second one of the names without repetitions, only the first one occurs. -/
theorem exists_split_of_eraseDups {l : List Text} {a b : Text} {rest : List Text}
    (h : l.eraseDups = a :: b :: rest) :
    ∃ same others, l = a :: (same ++ b :: others) ∧ (∀ c ∈ same, c = a) ∧ b ≠ a := by
  match l with
  | [] => exact nomatch h
  | c :: l =>
    rw [List.eraseDups_cons, List.cons.injEq] at h
    obtain ⟨rfl, h⟩ := h
    match hothers : l.filter fun d => !d == c with
    | [] =>
      rw [hothers] at h
      exact nomatch h
    | d :: others =>
      rw [hothers, List.eraseDups_cons, List.cons.injEq] at h
      obtain ⟨rfl, -⟩ := h
      obtain ⟨same, others, rfl, hsame, hd, -⟩ := List.filter_eq_cons_iff.mp hothers
      exact ⟨same, others, rfl, fun e he => by simpa using hsame e he, by simpa using hd⟩

/-- `r` is the first reference to a database other than the one that is named first: it follows `first`,
and of the references before it only those from `first` on are to databases, all to the same one. -/
def CrossesAt (refs : List TableRef) (r : TableRef) : Prop :=
  ∃ before first between after database database', refs = before ++ first :: (between ++ r :: after) ∧
    (∀ a ∈ before, ∀ d, ¬a.InDatabase d) ∧ first.InDatabase database ∧
    (∀ a ∈ between, ∀ d, a.InDatabase d → d = database) ∧
    r.InDatabase database' ∧ database' ≠ database

theorem exists_crossesAt_of_databases {refs : List TableRef} {d d' : Text} {rest : List Text}
    (h : databases refs = d :: d' :: rest) :
    ∃ r, refs.find? (fun r => r.database? == some d') = some r ∧ CrossesAt refs r := by
  obtain ⟨same, others, hnames, hsame, hne⟩ := exists_split_of_eraseDups h
  obtain ⟨before, first, refs, rfl, hbefore, hfirst, hrefs⟩ := List.filterMap_eq_cons_iff.mp hnames
  obtain ⟨between, refs, rfl, hbetween, hrefs⟩ := List.filterMap_eq_append_iff.mp hrefs
  obtain ⟨skipped, r, after, rfl, hskipped, hr, -⟩ := List.filterMap_eq_cons_iff.mp hrefs
  have hone : ∀ a ∈ between ++ skipped, ∀ e, a.database? = some e → e = d := by
    intro a ha e he
    rcases List.mem_append.mp ha with ha | ha
    · exact hsame e (hbetween ▸ List.mem_filterMap.mpr ⟨a, ha, he⟩)
    · rw [hskipped a ha] at he
      exact nomatch he
  -- so none of the references before `r` is to the second database
  have hnot : ∀ a ∈ before ++ first :: (between ++ skipped), a.database? ≠ some d' := by
    intro a ha had
    rcases List.mem_append.mp ha with ha | ha
    · rw [hbefore a ha] at had
      exact nomatch had
    · rcases List.mem_cons.mp ha with rfl | ha
      · exact hne (Option.some.inj (had.symm.trans hfirst))
      · exact hne (hone a ha d' had)
  have hfound : (before ++ first :: (between ++ (skipped ++ r :: after))).find?
      (fun r => r.database? == some d') = some r :=
    List.find?_eq_some_iff_append.mpr ⟨by rw [hr]; exact beq_self_eq_true _,
      before ++ first :: (between ++ skipped), after, by simp, fun a ha => by simpa using hnot a ha⟩
  exact ⟨r, hfound, before, first, between ++ skipped, after, d, d', by simp,
    fun a ha => TableRef.database?_eq_none_iff.mp (hbefore a ha),
    TableRef.database?_eq_some_iff.mp hfirst,
    fun a ha e he => hone a ha e (TableRef.database?_eq_some_iff.mpr he),
    TableRef.database?_eq_some_iff.mp hr, hne⟩

/-- With fewer than two databases listed, all references to databases are to one. -/
theorem eq_of_databases_short {refs : List TableRef} (h : ∀ a b rest, databases refs ≠ a :: b :: rest)
    {r r' : TableRef} (hr : r ∈ refs) (hr' : r' ∈ refs) {d d' : Text} (hd : r.InDatabase d)
    (hd' : r'.InDatabase d') : d = d' := by
  have hlisted : ∀ r ∈ refs, ∀ d, r.InDatabase d → d ∈ databases refs := fun r hr d hd =>
    List.mem_eraseDups.mpr (List.mem_filterMap.mpr ⟨r, hr, TableRef.database?_eq_some_iff.mpr hd⟩)
  have hmem := hlisted r hr d hd
  have hmem' := hlisted r' hr' d' hd'
  match hlist : databases refs with
  | [] =>
    rw [hlist] at hmem
    exact absurd hmem List.not_mem_nil
  | [a] =>
    rw [hlist, List.mem_singleton] at hmem hmem'
    rw [hmem, hmem']
  | a :: b :: rest => exact absurd hlist (h a b rest)

theorem joinStrings_shown (names : List Text) :
    Text.joinStrings ", " (names.map Text.shown) = String.ofList (List.intercalate [',', ' '] names) := by
  rw [Text.joinStrings, List.map_map]
  congr 2
  exact (List.map_congr_left fun name _ => String.toList_ofList).trans (List.map_id names)

/-- The check reports just if references are to two databases. It states how many databases all references
name and lists each of them once, and it reports where the second one is reached. -/
theorem crossDatabaseJoin_second (sql : Text) :
    (crossDatabaseJoin sql ≠ [] ↔
      ∃ r ∈ tableRefs sql, ∃ r' ∈ tableRefs sql, ∃ d d', r.InDatabase d ∧ r'.InDatabase d' ∧ d ≠ d') ∧
    ∀ f ∈ crossDatabaseJoin sql, crossDatabaseJoin sql = [f] ∧ ∃ names r,
      ListsOnce names (namedDatabases (tableRefs sql)) ∧ CrossesAt (tableRefs sql) r ∧
      f.rule = "md-cross-database-join" ∧
      f.message = "This query combines tables from " ++ toString names.length ++ " databases ("
        ++ String.ofList (List.intercalate [',', ' '] names) ++ "). If they live in "
        ++ "different places (local and MotherDuck, or two attached files) rows are moved between them "
        ++ "during execution." ∧
      f.offset = some ⟨r.span.start, r.span.stop⟩ := by
  rw [crossDatabaseJoin]
  split
  · rename_i a b rest hlist
    obtain ⟨r, hfound, hcross⟩ := exists_crossesAt_of_databases hlist
    rw [hfound]
    refine ⟨iff_of_true (List.cons_ne_nil _ _) ?_, fun f hf => ?_⟩
    · obtain ⟨before, first, between, after, d, d', hrefs, -, hfirst, -, hr, hne⟩ := hcross
      exact ⟨first, by simp [hrefs], r, by simp [hrefs], d, d', hfirst, hr, hne.symm⟩
    · obtain rfl := List.mem_singleton.mp hf
      refine ⟨rfl, a :: b :: rest, r, ?_, hcross, rfl, ?_, rfl⟩
      · rw [← filterMap_database?, ← hlist]
        exact listsOnce_eraseDups _
      · rw [← joinStrings_shown, ← List.length_map Text.shown]
        rfl
  · rename_i hshort
    refine ⟨⟨fun h => absurd rfl h, ?_⟩, fun f hf => absurd hf List.not_mem_nil⟩
    rintro ⟨r, hr, r', hr', d, d', hd, hd', hne⟩
    exact absurd (eq_of_databases_short hshort hr hr' hd hd') hne

example : crossDatabaseJoin "SELECT * FROM a.s.t JOIN u JOIN b.s.t JOIN a.s.v JOIN c.s.t".toList
    = [(crossDatabaseAdvice 3 "a, b, c").located ⟨32, 37⟩] := by decide +kernel

end Checks
end QueryLint
