import QueryLint.Analysis.Parsing

/-! The attempts at a text: in which forms it is put to a parser, and what comes of the answers. Main
statement: `byParser_attempts`, the text as it is and its plain form are tried at most once each, in
this order, the second only where the first did not do, and the last answer alone decides. -/
namespace QueryLint
set_option autoImplicit false

/-! ## One attempt -/

/-- The forms in which a text can be put to a parser. -/
inductive Form where
  | raw
  | plain
deriving DecidableEq

/-- A form that was put to a parser, with the request and the answer. -/
structure Attempt where
  form : Form
  request : Request
  answer : Except Failure (List Query)

namespace Attempt

def Fails (a : Attempt) : Prop := ∃ failure, a.answer = .error failure

/-- What the request of an attempt carries: the text untouched or its plain form, and the name of the
dialect unless it is the standard one. -/
structure Carries (a : Attempt) (sql : Text) (dialect : String) : Prop where
  raw_sql : a.form = .raw → a.request.sql = sql
  plain_sql : a.form = .plain → a.request.sql = Sql.plainForm sql
  dialect_eq : a.request.dialect = if dialect = "ansi" then none else some dialect

/-- An outcome is what an attempt has come to: its statements, with a note of their form, or the
message of its failure if it says anything. Where the grammar has given a message, it is that one. -/
structure ComesTo (a : Attempt) (o : ParseOutcome) : Prop where
  of_ok : ∀ queries, a.answer = .ok queries →
    o.statements = queries ∧ o.error = none ∧ (o.isPlain = true ↔ a.form = .plain)
  of_error : ∀ failure, a.answer = .error failure →
    o.error = some (if failure.message = "" then "Failed to parse SQL" else failure.message)
  of_message : ∀ message, a.answer = .error (.rejected message) ∨ a.answer = .error (.crashed message) →
    o.error = some (if message = "" then "Failed to parse SQL" else message)

theorem comesTo_statements {a : Attempt} {queries : List Query} (h : a.answer = .ok queries)
    {isPlain : Bool} (hform : isPlain = true ↔ a.form = .plain) :
    a.ComesTo ⟨queries, none, isPlain⟩ where
  of_ok queries' h' := by
    obtain rfl := Except.ok.inj (h.symm.trans h')
    exact ⟨rfl, rfl, hform⟩
  of_error failure h' := nomatch h.symm.trans h'
  of_message message h' := by
    rcases h' with h' | h'
    · exact nomatch h.symm.trans h'
    · exact nomatch h.symm.trans h'

theorem comesTo_failed {a : Attempt} {failure : Failure} (h : a.answer = .error failure) :
    a.ComesTo (.failed (Parsing.refusal failure)) where
  of_ok queries h' := nomatch h.symm.trans h'
  of_error failure' h' := by
    obtain rfl := Except.error.inj (h.symm.trans h')
    rfl
  of_message message h' := by
    rcases h' with h' | h'
    · obtain rfl := Except.error.inj (h.symm.trans h')
      rfl
    · obtain rfl := Except.error.inj (h.symm.trans h')
      rfl

end Attempt

/-- An error says something, and where there is one there are neither statements nor a form. -/
structure ParseOutcome.Consistent (o : ParseOutcome) : Prop where
  error_ne : o.error ≠ some ""
  of_error : o.error ≠ none → o.statements = [] ∧ o.isPlain = false

namespace ParseOutcome

theorem consistent_failed {message : String} (h : message ≠ "") : (failed message).Consistent where
  error_ne := fun heq => h (Option.some.inj heq)
  of_error := fun _ => ⟨rfl, rfl⟩

theorem consistent_of_statements (statements : List Query) (isPlain : Bool) :
    Consistent ⟨statements, none, isPlain⟩ where
  error_ne := nofun
  of_error := fun h => absurd rfl h

end ParseOutcome

/-! ## The course of the attempts -/

/-- The attempts of a parser at a text, which it answers one after the other: the text as it is comes
first, if it is wanted, and the plain form follows unless the text as it is has parsed. -/
structure Attempt.Course (p : Parser) (asked : Nat) (dialect : String) (rawFirst : Bool) (sql : Text)
    (attempts : List Attempt) : Prop where
  carries : ∀ a ∈ attempts, a.Carries sql dialect
  answered : ∀ k a, attempts[k]? = some a → a.answer = p (asked + k) a.request
  forms : (attempts.map Attempt.form).Sublist [.raw, .plain]
  raw_iff : .raw ∈ attempts.map Attempt.form ↔ rawFirst = true
  plain_iff : .plain ∈ attempts.map Attempt.form ↔
    ∀ a ∈ attempts, a.form = .raw → a.Fails

/-- A parsing has made the requests of these attempts and no others, and the last of them has decided its
outcome. -/
structure Parsing.Follows (r : Parsing) (attempts : List Attempt) : Prop where
  requests_eq : r.requests = attempts.map Attempt.request
  decided : ∃ last, attempts.getLast? = some last ∧ last.ComesTo r.outcome

namespace Parsing

theorem refusal_ne (f : Failure) : refusal f ≠ "" := by
  rw [refusal]
  split
  · decide
  · assumption

section Course

variable (p : Parser) (asked : Nat) (dialect : String) (sql : Text)

def plainAttempt : Attempt :=
  ⟨.plain, Grammar.request (Sql.plainForm sql) dialect,
    p asked (Grammar.request (Sql.plainForm sql) dialect)⟩

def rawAttempt : Attempt := ⟨.raw, Grammar.request sql dialect, p asked (Grammar.request sql dialect)⟩

theorem plainAttempt_carries : (plainAttempt p asked dialect sql).Carries sql dialect where
  raw_sql := nofun
  plain_sql := fun _ => rfl
  dialect_eq := rfl

theorem rawAttempt_carries : (rawAttempt p asked dialect sql).Carries sql dialect where
  raw_sql := fun _ => rfl
  plain_sql := nofun
  dialect_eq := rfl

theorem ofPlainForm_follows :
    (ofPlainForm p asked dialect sql).Follows [plainAttempt p asked dialect sql] ∧
      (ofPlainForm p asked dialect sql).outcome.Consistent := by
  rw [ofPlainForm]
  cases h : p asked (Grammar.request (Sql.plainForm sql) dialect) with
  | ok queries =>
    exact ⟨⟨rfl, _, rfl, Attempt.comesTo_statements h (iff_of_true rfl rfl)⟩,
      ParseOutcome.consistent_of_statements queries true⟩
  | error failure =>
    exact ⟨⟨rfl, _, rfl, Attempt.comesTo_failed h⟩, ParseOutcome.consistent_failed (refusal_ne failure)⟩

/-- A single attempt is answered as the first of its course. -/
theorem answered_single {a : Attempt} (ha : a.answer = p asked a.request) (k : Nat) (b : Attempt)
    (h : [a][k]? = some b) : b.answer = p (asked + k) b.request := by
  obtain ⟨rfl, rfl⟩ : k = 0 ∧ a = b := by
    simpa [List.getElem?_singleton] using h
  exact ha

theorem plainAttempt_course :
    Attempt.Course p asked dialect false sql [plainAttempt p asked dialect sql] where
  carries := List.forall_mem_singleton.mpr (plainAttempt_carries p asked dialect sql)
  answered := answered_single p asked rfl
  forms := List.sublist_cons_self Form.raw [Form.plain]
  raw_iff := by simp [plainAttempt]
  plain_iff := by simp [plainAttempt]

theorem rawAttempt_course_of_ok {queries : List Query}
    (h : (rawAttempt p asked dialect sql).answer = .ok queries) :
    Attempt.Course p asked dialect true sql [rawAttempt p asked dialect sql] where
  carries := List.forall_mem_singleton.mpr (rawAttempt_carries p asked dialect sql)
  answered := answered_single p asked rfl
  forms := List.Sublist.cons_cons Form.raw (List.nil_sublist [Form.plain])
  raw_iff := by simp [rawAttempt]
  plain_iff := by
    have hparsed : ¬(rawAttempt p asked dialect sql).Fails := fun ⟨failure, hfails⟩ =>
      nomatch h.symm.trans hfails
    refine iff_of_false (by simp [rawAttempt]) fun hall => ?_
    exact hparsed (hall _ List.mem_cons_self rfl)

/-- After a failure of the text as it is, the plain form is the second request. -/
theorem both_course_of_error (h : (rawAttempt p asked dialect sql).Fails) :
    Attempt.Course p asked dialect true sql
      [rawAttempt p asked dialect sql, plainAttempt p (asked + 1) dialect sql] where
  carries := List.forall_mem_cons.mpr ⟨rawAttempt_carries p asked dialect sql,
    List.forall_mem_singleton.mpr (plainAttempt_carries p (asked + 1) dialect sql)⟩
  answered
    | 0, a, h => by
      obtain rfl := Option.some.inj h
      rfl
    | 1, a, h => by
      obtain rfl := Option.some.inj h
      rfl
  forms := List.Sublist.refl _
  raw_iff := by simp [rawAttempt]
  plain_iff := by
    refine iff_of_true (by simp [plainAttempt]) fun a ha hraw => ?_
    rcases List.mem_cons.mp ha with rfl | ha
    · exact h
    · obtain rfl := List.mem_singleton.mp ha
      exact nomatch hraw

theorem ofRawText_follows :
    ∃ attempts, Attempt.Course p asked dialect true sql attempts ∧
      (ofRawText p asked dialect sql).Follows attempts ∧
      (ofRawText p asked dialect sql).outcome.Consistent := by
  rw [ofRawText]
  dsimp only
  cases h : p asked (Grammar.request sql dialect) with
  | ok queries =>
    exact ⟨_, rawAttempt_course_of_ok p asked dialect sql h,
      ⟨rfl, _, rfl, Attempt.comesTo_statements h (iff_of_false Bool.false_ne_true nofun)⟩,
      ParseOutcome.consistent_of_statements queries false⟩
  | error failure =>
    obtain ⟨⟨hrequests, last, hlast, hcomes⟩, hconsistent⟩ :=
      ofPlainForm_follows p (asked + 1) dialect sql
    refine ⟨_, both_course_of_error p asked dialect sql ⟨failure, h⟩, ⟨?_, last, ?_, hcomes⟩,
      hconsistent⟩
    · exact congrArg (Grammar.request sql dialect :: ·) hrequests
    · rw [List.getLast?_cons_cons, hlast]

end Course

/-- Whatever a parser does, there is an outcome, and it is consistent. Without a parser nothing is
asked; with one the requests are those of a course of attempts that keeps to the rules, and its last
attempt decides. -/
theorem byParser_attempts (parser : Option Parser) (asked : Nat) (dialect : String) (rawFirst : Bool)
    (sql : Text) :
    let r := byParser parser asked dialect rawFirst sql
    r.outcome.Consistent ∧
      match parser with
      | none => r.requests = [] ∧ r.outcome.error = some "SQL parser unavailable"
      | some p => ∃ attempts, Attempt.Course p asked dialect rawFirst sql attempts ∧
          r.Follows attempts := by
  cases parser with
  | none => exact ⟨ParseOutcome.consistent_failed (by decide), rfl, rfl⟩
  | some p =>
    cases rawFirst with
    | false =>
      obtain ⟨hfollows, hconsistent⟩ := ofPlainForm_follows p asked dialect sql
      exact ⟨hconsistent, _, plainAttempt_course p asked dialect sql, hfollows⟩
    | true =>
      obtain ⟨attempts, hcourse, hfollows, hconsistent⟩ := ofRawText_follows p asked dialect sql
      exact ⟨hconsistent, attempts, hcourse, hfollows⟩

/-- A parser that knows no casts. -/
def castless : Parser := fun _ r =>
  if Sql.castSuffix.occursIn r.sql then .error (.rejected "Invalid expression") else .ok []

theorem byParser_attempts_castless :
    let sql := "SELECT a::INT FROM t".toList
    let r := byParser (some castless) 0 "duckdb" true sql
    (∃ failure, castless 0 ⟨sql, some "duckdb"⟩ = .error failure) ∧
      (∃ attempts, Attempt.Course castless 0 "duckdb" true sql attempts ∧ r.Follows attempts) ∧
      r.requests = [⟨sql, some "duckdb"⟩, ⟨"SELECT a FROM t".toList, some "duckdb"⟩] ∧
      r.outcome.error = none ∧ r.outcome.isPlain = true :=
  ⟨⟨_, if_pos (by decide +kernel)⟩,
    (byParser_attempts (some castless) 0 "duckdb" true "SELECT a::INT FROM t".toList).2,
    by decide +kernel, by decide +kernel, by decide +kernel⟩

end Parsing
end QueryLint
