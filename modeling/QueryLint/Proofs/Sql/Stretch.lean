import QueryLint.Proofs.Pattern.Place
import QueryLint.Sql.Clause
import QueryLint.Sql.NamedQuery

/-! Where the parts of a query stand: closing parentheses, clauses, references to tables and the
blocks of WITH clauses lie in the text from which they are read. Masked calls leave every position
as it is, so a reference that is read from the masked text stands in the query itself. -/
namespace QueryLint
set_option autoImplicit false

/-- The stretch takes a character and ends in the text. -/
def Span.StandsIn (t : Text) (s : Span) : Prop := s.start < s.stop ∧ s.stop ≤ t.length

/-! ## Slices -/

theorem Text.length_slice_le (t : Text) (s : Span) : (t.slice s).length ≤ s.stop - s.start := by
  rw [Text.slice, List.length_drop, List.length_take]
  omega

theorem Text.start_add_length_slice_le {t : Text} {s : Span} (h : s.start ≤ t.length) :
    s.start + (t.slice s).length ≤ t.length := by
  rw [Text.slice, List.length_drop, List.length_take]
  omega

theorem Text.length_slice {t : Text} {s : Span} (h : s.stop ≤ t.length) :
    (t.slice s).length = s.stop - s.start := by
  rw [Text.slice, List.length_drop, List.length_take, Nat.min_eq_left h]

/-- A slice is what the text begins with from there on. -/
theorem Text.slice_eq_take_drop (t : Text) (s : Span) :
    t.slice s = (t.drop s.start).take (s.stop - s.start) := by
  rw [Text.slice, List.drop_take]

theorem Text.slice_of_begins {t w : Text} {start : Nat} (h : w <+: t.drop start) :
    t.slice ⟨start, start + w.length⟩ = w := by
  rw [Text.slice_eq_take_drop, Nat.add_sub_cancel_left, ← List.prefix_iff_eq_take.mp h]

/-- A stretch of a piece of the text, moved to where the piece begins, is a stretch of the text. -/
theorem Span.StandsIn.shift {t piece : Text} {base : Nat} {s : Span} (h : s.StandsIn piece)
    (hp : base + piece.length ≤ t.length) : (s.shift base).StandsIn t := by
  obtain ⟨hlt, hle⟩ := h
  exact ⟨by simp only [Span.shift]; omega, by simp only [Span.shift]; omega⟩

/-- What a stretch of a piece says is what the text says where the piece begins. -/
theorem Text.slice_shift {t piece : Text} {base : Nat} {s : Span} (hp : piece <+: t.drop base)
    (hs : s.stop ≤ piece.length) : t.slice (s.shift base) = piece.slice s := by
  obtain ⟨rest, hrest⟩ := hp
  have hbase : t.slice (s.shift base) = Text.slice (t.drop base) s := by
    simp only [slice_eq_take_drop, Span.shift, List.drop_drop, Nat.add_sub_add_left]
  rw [hbase, ← hrest, slice, slice, List.take_append_of_le_length hs]

/-- A match that has to take a character stands in its text. -/
theorem Match.Of.standsIn {p : Pattern} {t : Text} {m : Match} (h : m.Of p t)
    (hp : 0 < p.shape.least) : m.span.StandsIn t := by
  have hle := h.add_least_le_stop
  exact ⟨by omega, h.stop_le_length⟩

namespace Sql

/-! ## Parentheses -/

/-- A scan for the closing parenthesis ends after one. -/
theorem closingFrom_split {depth : Int} {quote : Option Char} {position stop : Nat} {t : Text}
    (h : closingFrom depth quote position t = some stop) :
    ∃ passed rest, t = passed ++ ')' :: rest ∧ stop = position + passed.length + 1 := by
  induction t generalizing depth quote position with
  | nil => exact absurd h (by simp [closingFrom])
  | cons c t ih =>
    have later : ∀ {depth quote}, closingFrom depth quote (position + 1) t = some stop →
        ∃ passed rest, c :: t = passed ++ ')' :: rest ∧ stop = position + passed.length + 1 := by
      intro depth quote h
      obtain ⟨passed, rest, rfl, rfl⟩ := ih h
      exact ⟨c :: passed, rest, rfl, by rw [List.length_cons]; omega⟩
    rw [closingFrom] at h
    split at h
    · split at h
      · exact later h
      · split at h
        · rename_i hclose
          split at h
          · obtain rfl := Option.some.inj h
            exact ⟨[], t, by rw [eq_of_beq hclose]; rfl, rfl⟩
          · exact later h
        · exact later h
    · exact later h

theorem closingFrom_bounds {depth : Int} {quote : Option Char} {position stop : Nat} {t : Text}
    (h : closingFrom depth quote position t = some stop) :
    position < stop ∧ stop ≤ position + t.length := by
  obtain ⟨passed, rest, rfl, rfl⟩ := closingFrom_split h
  rw [List.length_append, List.length_cons]
  omega

theorem closingFrom_last {depth : Int} {quote : Option Char} {position stop : Nat} {t : Text}
    (h : closingFrom depth quote position t = some stop) : t[stop - 1 - position]? = some ')' := by
  obtain ⟨passed, rest, rfl, rfl⟩ := closingFrom_split h
  rw [Nat.add_sub_cancel, Nat.add_sub_cancel_left, List.getElem?_append_right (Nat.le_refl _), Nat.sub_self,
    List.getElem?_cons_zero]

theorem closingParen?_bounds {t : Text} {start stop : Nat} (h : closingParen? t start = some stop) :
    start < stop ∧ stop ≤ t.length := by
  obtain ⟨hlt, hle⟩ := closingFrom_bounds h
  rw [List.length_drop] at hle
  omega

/-! ## Masked calls -/

theorem length_mapCallsFrom {name : Text} {f : Text → Text} (hf : ∀ t, (f t).length = t.length)
    (before : Option Char) (rest : Text) :
    (mapCallsFrom name f before rest).length = rest.length := by
  fun_induction mapCallsFrom name f before rest with
  | case1 => rfl
  | case2 before c tail h ih => rw [List.length_cons, List.length_cons, ih]
  | case3 before c tail head h passed ih =>
    simp only [List.length_append, ih, passed, List.length_cons, List.length_take,
      List.length_drop]
    omega
  | case4 before c tail head stop h made ih =>
    simp only [List.length_append, ih, made, hf, List.length_cons, List.length_take,
      List.length_drop]
    omega

theorem length_maskCall (name t : Text) : (maskCall name t).length = t.length :=
  length_mapCallsFrom (fun _ => by rw [Text.blanks, List.length_replicate]) none t

/-- Masking moves no character. -/
theorem length_maskCalls (names : List Text) (t : Text) :
    (maskCalls names t).length = t.length := by
  induction names generalizing t with
  | nil => rfl
  | cons name names ih =>
    rw [maskCalls, List.foldl_cons]
    exact (ih (maskCall name t)).trans (length_maskCall name t)

/-! ## Clauses -/

/-- The body of a clause lies in the query, from where the clause begins. -/
theorem clauseAt_fits {terminator : Pattern} {sql : Text} {start : Nat} (h : start ≤ sql.length) :
    (clauseAt terminator sql start).start + (clauseAt terminator sql start).body.length
      ≤ sql.length := by
  show start + (sql.slice ⟨start, _⟩).length ≤ sql.length
  exact Text.start_add_length_slice_le (s := ⟨start, _⟩) h

theorem clauses_fit {keyword terminator : Pattern} {sql : Text} {c : Clause}
    (h : c ∈ clauses keyword terminator sql) : c.start + c.body.length ≤ sql.length := by
  obtain ⟨m, hm, rfl⟩ := List.mem_map.mp h
  exact clauseAt_fits (Pattern.of_mem_all hm).stop_le_length

/-- The body of a clause is what the query goes on with from where the clause begins. -/
theorem body_begins {keyword terminator : Pattern} {sql : Text} {c : Clause}
    (h : c ∈ clauses keyword terminator sql) : c.body <+: sql.drop c.start := by
  obtain ⟨m, -, rfl⟩ := List.mem_map.mp h
  show sql.slice ⟨m.span.stop, _⟩ <+: sql.drop m.span.stop
  rw [Text.slice_eq_take_drop]
  exact List.take_prefix _ _

theorem mem_clauses_of_joinConditions {sql : Text} {c : Clause} (h : c ∈ joinConditions sql) :
    c ∈ clauses onKeyword onTerminator sql := by
  rw [joinConditions] at h
  split at h
  · exact absurd h List.not_mem_nil
  · exact (List.mem_filter.mp h).1

theorem joinConditions_fit {sql : Text} {c : Clause} (h : c ∈ joinConditions sql) :
    c.start + c.body.length ≤ sql.length := clauses_fit (mem_clauses_of_joinConditions h)

/-! ## Tables -/

theorem tableRefAt?_standsIn {t : Text} {m : Match} {r : TableRef}
    (h : tableRefAt? t m = some r) : r.span.StandsIn t := by
  rw [tableRefAt?] at h
  split at h
  · exact absurd h (by simp)
  · split at h
    · exact absurd h (by simp)
    · rename_i name hname
      have hof : name.Of qualifiedName t := ⟨_, Cursor.seek_inText t _, hname⟩
      split at h
      · exact absurd h (by simp)
      · simp only at h
        split at h
        · exact absurd h (by simp)
        · obtain rfl := Option.some.inj h
          exact hof.standsIn (by decide)

/-- A reference stands in the query, though it is read from the query with calls masked. -/
theorem tableRefs_standIn {sql : Text} {r : TableRef} (h : r ∈ tableRefs sql) :
    r.span.StandsIn sql := by
  obtain ⟨m, -, hr⟩ := List.mem_filterMap.mp h
  obtain ⟨hlt, hle⟩ := tableRefAt?_standsIn hr
  exact ⟨hlt, length_maskCalls callsWithFrom sql ▸ hle⟩

/-! ## Named queries -/

theorem namedQueryAt?_fits {sql : Text} {position : Nat} {block : NamedQuery}
    (h : namedQueryAt? sql position = some block) :
    block.span.start + block.body.length ≤ sql.length := by
  rw [namedQueryAt?] at h
  split at h
  · exact absurd h (by simp)
  · rename_i head hhead
    have hof : head.Of blockHead sql := ⟨_, Cursor.seek_inText sql position, hhead⟩
    split at h
    · exact absurd h (by simp)
    · obtain rfl := Option.some.inj h
      exact Text.start_add_length_slice_le hof.stop_le_length

theorem namedQueriesFrom_fit {sql : Text} {position : Nat} {block : NamedQuery}
    (h : block ∈ namedQueriesFrom sql position) :
    block.span.start + block.body.length ≤ sql.length := by
  fun_induction namedQueriesFrom sql position with
  | case1 => exact absurd h List.not_mem_nil
  | case2 position first hfirst _ =>
    obtain rfl := List.mem_singleton.mp h
    exact namedQueryAt?_fits hfirst
  | case3 position first hfirst comma _ _ ih =>
    rcases List.mem_cons.mp h with rfl | h
    · exact namedQueryAt?_fits hfirst
    · exact ih h
  | case4 position first hfirst comma _ _ =>
    obtain rfl := List.mem_singleton.mp h
    exact namedQueryAt?_fits hfirst

theorem namedQueries_fit {sql : Text} {block : NamedQuery} (h : block ∈ namedQueries sql) :
    block.span.start + block.body.length ≤ sql.length := by
  obtain ⟨group, hgroup, hblock⟩ := List.mem_flatten.mp h
  obtain ⟨m, -, rfl⟩ := List.mem_map.mp (List.mem_filter.mp hgroup).1
  exact namedQueriesFrom_fit hblock

end Sql
end QueryLint
