import QueryLint.Proofs.Pattern.Opening
import QueryLint.Proofs.Sql.Excess

/-! The plain form of a balanced query. Leaving out casts and replacing calls keeps parentheses
balanced. A PIVOT or UNPIVOT clause ends at the first closing parenthesis that its pattern sees, which
may belong to a call in the arguments: then the clause takes more of one kind of parenthesis than of
the other. Main statement: `plainForm_balanced_iff`. -/
namespace QueryLint.Sql
set_option autoImplicit false
open Text

/-! ## Steps -/

def uncast (sql : Text) : Text := castSuffix.replaceAll sql fun _ => []

/-- The query without casts, and without the calls that have placeholders. -/
def called (sql : Text) : Text :=
  placeholders.foldl (fun t (name, placeholder) => replaceCalls name.toList placeholder.toList t)
    (uncast sql)

/-- The query without casts, calls that have placeholders, and PIVOT clauses. -/
def unpivoted (sql : Text) : Text := pivotClause.replaceAll (called sql) (wholeTable (called sql))

theorem plainForm_eq (sql : Text) :
    plainForm sql = unpivotClause.replaceAll (unpivoted sql) (wholeTable (unpivoted sql)) := rfl

/-! ## Casts -/

theorem uncast_balanced {sql : Text} (h : Balanced sql) : Balanced (uncast sql) := by
  have hempty : ∀ m ∈ castSuffix.all sql, Plain ((fun _ => [] : Match → Text) m) :=
    fun _ _ c hc => absurd hc List.not_mem_nil
  refine (balanced_replaceAll_iff (by decide) hempty).mpr (leavesBalance_of_flat h fun m hm => ?_)
  exact (castSuffix_balanced (Pattern.of_mem_all hm)).level

theorem subset_replaceFrom {t : Text} {f : Match → Text} (hf : ∀ m, f m = []) (position : Nat)
    (ms : List Match) : Pattern.replaceFrom t f position ms ⊆ t := by
  induction ms generalizing position with
  | nil => exact List.drop_subset position t
  | cons m ms ih =>
    rw [Pattern.replaceFrom, hf, List.append_nil]
    refine List.append_subset.mpr ⟨?_, ih m.span.stop⟩
    exact List.Subset.trans (List.drop_subset _ _) (List.take_subset _ _)

theorem uncast_quoteFree {sql : Text} (h : QuoteFree sql) : QuoteFree (uncast sql) :=
  h.of_subset (subset_replaceFrom (fun _ => rfl) 0 _)

/-! ## Calls -/

section Calls

variable {name : Text} {f : Text → Text} {before : Option Char} {rest : Text}

/-- Balanced texts in the places of calls leave the level as it is, and nothing dips lower. -/
theorem mapCallsFrom_above (hname : IsName name) (hf : ∀ call, Balanced (f call))
    (hquotes : QuoteFree rest) {depth : Int} (h : Above depth rest) :
    Above depth (mapCallsFrom name f before rest) ∧
      level (mapCallsFrom name f before rest) = level rest := by
  fun_induction mapCallsFrom name f before rest generalizing depth with
  | case1 => exact ⟨h, rfl⟩
  | case2 before c tail _ ih =>
    obtain ⟨hc, htail⟩ := above_append.mp (List.singleton_append ▸ h)
    obtain ⟨habove, hlevel⟩ := ih (hquotes.of_subset (List.subset_cons_self c tail)) htail
    rw [level_cons, hlevel, ← level_cons]
    exact ⟨above_append.mpr ⟨hc, habove⟩, rfl⟩
  | case3 before c tail head _ passed ih =>
    have hsplit : passed ++ tail.drop (head - 1) = c :: tail := by
      rw [List.cons_append, List.take_append_drop]
    rw [← hsplit] at h hquotes ⊢
    obtain ⟨hpassed, hlater⟩ := above_append.mp h
    obtain ⟨habove, hlevel⟩ := ih (hquotes.of_subset (List.subset_append_right _ _)) hlater
    rw [level_append, hlevel, ← level_append]
    exact ⟨above_append.mpr ⟨hpassed, habove⟩, rfl⟩
  | case4 before c tail head stop hat made ih =>
    have hcall : IsCall name before (c :: tail) stop := isCall_iff_headAt?.mpr ⟨head, hat⟩
    have hdrop : (c :: tail).drop stop = tail.drop (stop - 1) := by
      cases stop with
      | zero => exact absurd hcall.length_bounds.1 (Nat.lt_irrefl 0)
      | succ stop => rfl
    have hbalanced := hcall.balanced_take hname hquotes
    rw [← List.take_append_drop stop (c :: tail), hbalanced.above_append_iff] at h
    have hlater := hquotes.of_subset (List.drop_subset stop (c :: tail))
    rw [hdrop] at h hlater
    obtain ⟨habove, hlevel⟩ := ih hlater h
    refine ⟨(hf _).above_append_iff.mpr habove, ?_⟩
    rw [level_append, (hf _).level, hlevel, ← List.take_append_drop stop (c :: tail), level_append,
      hbalanced.level, hdrop]

theorem mem_mapCallsFrom {c : Char} (h : c ∈ mapCallsFrom name f before rest) :
    c ∈ rest ∨ ∃ call, c ∈ f call := by
  fun_induction mapCallsFrom name f before rest with
  | case1 => exact .inl h
  | case2 before d tail _ ih =>
    rcases List.mem_cons.mp h with rfl | h
    · exact .inl List.mem_cons_self
    · exact (ih h).imp_left (List.mem_cons_of_mem d)
  | case3 before d tail head _ passed ih =>
    rcases List.mem_append.mp h with h | h
    · exact .inl (List.cons_subset_cons d (List.take_subset _ _) h)
    · exact (ih h).imp_left fun h => List.mem_cons_of_mem d (List.drop_subset _ _ h)
  | case4 before d tail head stop _ made ih =>
    rcases List.mem_append.mp h with h | h
    · exact .inr ⟨_, h⟩
    · exact (ih h).imp_left fun h => List.mem_cons_of_mem d (List.drop_subset _ _ h)

end Calls

/-- A balanced text in the place of the calls keeps a query without quotes balanced. -/
theorem replaceCalls_balanced {name replacement t : Text} (hname : IsName name)
    (hreplacement : Balanced replacement) (hquotes : QuoteFree t) (ht : Balanced t) :
    Balanced (replaceCalls name replacement t) := by
  obtain ⟨habove, hlevel⟩ :=
    mapCallsFrom_above hname (fun _ => hreplacement) hquotes (ht.above (Int.le_refl 0))
  exact balanced_iff.mpr ⟨habove, hlevel.trans ht.level⟩

theorem placeholders_fit : ∀ entry ∈ placeholders, IsName entry.1.toList ∧
    Balanced entry.2.toList ∧ QuoteFree entry.2.toList := by decide

theorem called_balanced {sql : Text} (hquotes : QuoteFree sql) (h : Balanced sql) :
    QuoteFree (called sql) ∧ Balanced (called sql) := by
  have hfold : ∀ (entries : List (String × String)) (t : Text), (∀ entry ∈ entries,
      IsName entry.1.toList ∧ Balanced entry.2.toList ∧ QuoteFree entry.2.toList) →
      QuoteFree t → Balanced t →
      QuoteFree (entries.foldl (fun t (name, placeholder) =>
        replaceCalls name.toList placeholder.toList t) t) ∧
      Balanced (entries.foldl (fun t (name, placeholder) =>
        replaceCalls name.toList placeholder.toList t) t) := by
    intro entries
    induction entries with
    | nil => exact fun t _ hquotes ht => ⟨hquotes, ht⟩
    | cons entry entries ih =>
      intro t hentries hquotes ht
      obtain ⟨⟨hname, hbalanced, hfree⟩, hothers⟩ := List.forall_mem_cons.mp hentries
      refine ih _ hothers (fun c hc => ?_) (replaceCalls_balanced hname hbalanced hquotes ht)
      exact (mem_mapCallsFrom hc).elim (hquotes c) fun ⟨_, hc⟩ => hfree c hc
  exact hfold placeholders (uncast sql) placeholders_fit (uncast_quoteFree hquotes)
    (uncast_balanced h)

/-! ## Clauses -/

/-- A query over a table has no parentheses, if no set in a group of the pattern holds one. -/
theorem wholeTable_plain {p : Pattern} {t : Text} {m : Match} (hm : m ∈ p.all t)
    (hp : p.shape.groupsAvoid p.ignoreCase '(' = true ∧ p.shape.groupsAvoid p.ignoreCase ')' = true) :
    Plain (wholeTable t m) := by
  have hof := Pattern.of_mem_all hm
  have hselect : Plain "SELECT * FROM ".toList := by decide
  refine Plain.append hselect fun c hc => ⟨?_, ?_⟩ <;> rintro rfl
  · exact hof.groupText_groupsAvoid hp.1 1 hc
  · exact hof.groupText_groupsAvoid hp.2 1 hc

/-- The plain form of a balanced query without quotes. Casts and calls leave it balanced. A step that
rewrites clauses does just where what its clauses take, as far as its pattern sees them, leaves
balance; so it does if each of them opens as many parentheses as it closes. -/
theorem plainForm_balanced_iff {sql : Text} (hquotes : QuoteFree sql) (hsql : Balanced sql) :
    Balanced (uncast sql) ∧ Balanced (called sql) ∧
    (Balanced (unpivoted sql) ↔ LeavesBalance (called sql) (pivotClause.all (called sql))) ∧
    (Balanced (plainForm sql) ↔ LeavesBalance (unpivoted sql) (unpivotClause.all (unpivoted sql))) ∧
    ((∀ m ∈ pivotClause.all (called sql), level (m.text (called sql)) = 0) →
      (∀ m ∈ unpivotClause.all (unpivoted sql), level (m.text (unpivoted sql)) = 0) →
      Balanced (plainForm sql)) := by
  obtain ⟨-, hcalled⟩ := called_balanced hquotes hsql
  have hpivot : Balanced (unpivoted sql) ↔
      LeavesBalance (called sql) (pivotClause.all (called sql)) :=
    balanced_replaceAll_iff (by decide) fun m hm => wholeTable_plain hm (by decide +kernel)
  have hunpivot : Balanced (plainForm sql) ↔
      LeavesBalance (unpivoted sql) (unpivotClause.all (unpivoted sql)) :=
    balanced_replaceAll_iff (by decide) fun m hm => wholeTable_plain hm (by decide +kernel)
  refine ⟨uncast_balanced hsql, hcalled, hpivot, hunpivot, fun hpivots hunpivots => ?_⟩
  have hunpivoted := hpivot.mpr (leavesBalance_of_flat hcalled hpivots)
  exact hunpivot.mpr (leavesBalance_of_flat hunpivoted hunpivots)

/-- A cast with a precision, a call in a call, and a PIVOT without calls in its arguments. -/
def pivotInTable : Text :=
  "SELECT x::DECIMAL(10,2), LIST(f(y)) FROM (PIVOT t ON a USING sum(b))".toList

theorem pivotInTable_balanced :
    QuoteFree pivotInTable ∧ Balanced pivotInTable ∧
      plainForm pivotInTable = "SELECT x, ARRAY_AGG(1) FROM (SELECT * FROM t)".toList ∧
      Balanced (plainForm pivotInTable) := by
  have hquotes : QuoteFree pivotInTable := by decide
  have hbalanced : Balanced pivotInTable := by decide +kernel
  refine ⟨hquotes, hbalanced, by decide +kernel, ?_⟩
  exact (plainForm_balanced_iff hquotes hbalanced).2.2.2.2 (by decide +kernel) (by decide +kernel)

/-- A PIVOT that aggregates what a call returns: its clause ends with that call, and the parenthesis
of the aggregate stays. -/
def pivotOfCall : Text := "PIVOT t ON a USING sum(f(b))".toList

theorem pivotOfCall_not_balanced :
    QuoteFree pivotOfCall ∧ Balanced pivotOfCall ∧
      plainForm pivotOfCall = "SELECT * FROM t)".toList ∧ ¬Balanced (plainForm pivotOfCall) := by
  have hplain : plainForm pivotOfCall = "SELECT * FROM t)".toList := by decide +kernel
  refine ⟨by decide, by decide +kernel, hplain, ?_⟩
  rw [hplain]
  decide

end QueryLint.Sql
