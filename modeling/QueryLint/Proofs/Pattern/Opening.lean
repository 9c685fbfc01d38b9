import QueryLint.Proofs.Pattern.Place
import QueryLint.Proofs.Text.Fold

/-! The characters that a match takes. Main statements: `Match.Of.opening_same`, a match begins with
the opening of its pattern; `Match.Of.stop_eq_of_full`, it ends there if the shape asks for nothing
else; and `Match.Of.groupText_avoids` and `Match.Of.groupText_groupsAvoid`, a group has no character
that no set of the shape, or of its groups, holds. -/
namespace QueryLint
set_option autoImplicit false

namespace Shape

/-- The characters with which every match begins, and whether a match has no others. -/
def opening : Shape → List Char × Bool
  | one ⟨[.char c], false⟩ => ([c], true)
  | one _ | either .. | many .. => ([], false)
  | seq a b => if a.opening.2 then (a.opening.1 ++ b.opening.1, b.opening.2) else (a.opening.1, false)
  | group _ body => body.opening
  | nothing | edge | finish | notHere _ | notAfter _ => ([], true)

theorem opening_chars (t : List Char) : (chars t).opening = (t, true) := by
  induction t with
  | nil => rfl
  | cons c rest ih =>
    cases rest with
    | nil => rfl
    | cons d rest =>
      show (seq (char c) (chars (d :: rest))).opening = _
      rw [opening, ih]
      rfl

theorem sameLetters_of_has {set : CharSet} {c : Char} {t rest : Text} (ht : t = c :: rest)
    (hc : set.has true c = true) :
    Text.sameLetters (one set).opening.1 (t.take (one set).opening.1.length) = true ∧
      ((one set).opening.2 = true → rest = t.drop (one set).opening.1.length) := by
  unfold opening
  split
  · rename_i d heq
    obtain rfl : set = ⟨[.char d], false⟩ := by simpa using heq
    have hd : Text.sameLetter d c = true := by
      simpa [CharSet.has, CharKind.has] using hc
    simp [ht, Text.sameLetters, hd]
  all_goals simp_all [Text.sameLetters]

/-- A match begins with the opening, letter case aside, and goes on right after it if there is
nothing else to match. -/
theorem ends_opening {s : Shape} {p q : Progress} (hq : q ∈ s.ends true p) :
    Text.sameLetters s.opening.1 (p.cursor.rest.take s.opening.1.length) = true ∧
      (s.opening.2 = true → q.cursor.rest = p.cursor.rest.drop s.opening.1.length) := by
  replace hq := leads_of_mem_ends hq
  induction hq with
  | nothing | edge | finish | notHere | notAfter => exact ⟨rfl, fun _ => rfl⟩
  | one hrest hhas => exact sameLetters_of_has hrest hhas
  | seq _ _ ihfirst ihsecond =>
    obtain ⟨hsame, hrest⟩ := ihfirst
    obtain ⟨hsame', hrest'⟩ := ihsecond
    unfold opening
    split
    · rename_i hfull
      rw [hrest hfull] at hsame' hrest'
      refine ⟨?_, fun hb => ?_⟩
      · rw [List.length_append, List.take_add]
        exact Text.sameLetters_append hsame hsame'
      · rw [hrest' hb, List.drop_drop, List.length_append]
    · exact ⟨hsame, fun h => absurd h (by simp)⟩
  | left | right | done | more => exact ⟨rfl, fun h => absurd h (by simp [opening])⟩
  | group _ ih => exact ih

/-! ## Characters that no match takes -/

/-- Whether no set of the shape holds the character. -/
def avoids (blind : Bool) (x : Char) : Shape → Bool
  | one set => !set.has blind x
  | seq a b | either a b => a.avoids blind x && b.avoids blind x
  | many _ body | group _ body => body.avoids blind x
  | nothing | edge | finish | notHere _ | notAfter _ => true

/-- A character that no set holds is not among those between the two ends of a match. -/
theorem Leads.getElem?_ne {blind : Bool} {x : Char} {t : Text} {s : Shape} {p q : Progress}
    (h : Leads blind s p q) (hs : s.avoids blind x = true) (hp : p.cursor.InText t) {i : Nat}
    (hi : p.cursor.position ≤ i) (hiq : i < q.cursor.position) : t[i]? ≠ some x := by
  induction h with
  | nothing | done | edge | finish | notHere | notAfter => omega
  | @one set p c rest hrest hhas =>
    obtain rfl : i = p.cursor.position := by
      simp only at hiq
      omega
    rw [← List.head?_drop, ← hp.rest_eq, hrest]
    intro hx
    obtain rfl := Option.some.inj hx
    simp [avoids, hhas] at hs
  | @seq a b p q r hfirst _ ihfirst ihsecond =>
    rw [avoids, Bool.and_eq_true] at hs
    rcases Nat.lt_or_ge i r.cursor.position with hir | hir
    · exact ihfirst hs.1 hp hi hir
    · exact ihsecond hs.2 (hfirst.forward hp).1 hir hiq
  | left _ ih =>
    rw [avoids, Bool.and_eq_true] at hs
    exact ih hs.1 hp hi hiq
  | right _ ih =>
    rw [avoids, Bool.and_eq_true] at hs
    exact ih hs.2 hp hi hiq
  | @more greedy body p q r honce _ ihonce ihagain =>
    rcases Nat.lt_or_ge i r.cursor.position with hir | hir
    · exact ihonce hs hp hi hir
    · exact ihagain hs (honce.forward hp).1 hir hiq
  | group _ ih => exact ih hs hp hi hiq

/-! ## Characters that no group takes -/

/-- Whether no set in a group of the shape holds the character. -/
def groupsAvoid (blind : Bool) (x : Char) : Shape → Bool
  | seq a b | either a b => a.groupsAvoid blind x && b.groupsAvoid blind x
  | many _ body => body.groupsAvoid blind x
  | group _ body => body.avoids blind x && body.groupsAvoid blind x
  | one _ | nothing | edge | finish | notHere _ | notAfter _ => true

/-- A character that no set in a group holds is not between the two ends of a group. -/
theorem ends_groupsAvoid {blind : Bool} {x : Char} {t : Text} {s : Shape}
    (hs : s.groupsAvoid blind x = true) {p q : Progress} (hp : p.cursor.InText t)
    (hq : q ∈ s.ends blind p) {g : Nat × Span} (hg : g ∈ q.groups) :
    g ∈ p.groups ∨ ∀ i, g.2.start ≤ i → i < g.2.stop → t[i]? ≠ some x := by
  replace hq := leads_of_mem_ends hq
  induction hq with
  | nothing | one | done | edge | finish | notHere | notAfter => exact .inl hg
  | seq hfirst _ ihfirst ihsecond =>
    rw [groupsAvoid, Bool.and_eq_true] at hs
    rcases ihsecond hs.2 (hfirst.forward hp).1 hg with hg | hg
    · exact ihfirst hs.1 hp hg
    · exact .inr hg
  | left _ ih =>
    rw [groupsAvoid, Bool.and_eq_true] at hs
    exact ih hs.1 hp hg
  | right _ ih =>
    rw [groupsAvoid, Bool.and_eq_true] at hs
    exact ih hs.2 hp hg
  | more honce _ ihonce ihagain =>
    rcases ihagain hs (honce.forward hp).1 hg with hg | hg
    · exact ihonce hs hp hg
    · exact .inr hg
  | group hway ih =>
    rw [groupsAvoid, Bool.and_eq_true] at hs
    rcases List.mem_cons.mp hg with rfl | hg
    · exact .inr fun i hi hir => hway.getElem?_ne hs.1 hp hi hir
    · exact ih hs.2 hp hg

end Shape

namespace Match.Of

variable {t : Text} {m : Match} {s : Shape}

/-- The text from the start of a match on begins with the opening of the pattern. -/
theorem opening_same (h : m.Of (.anyCase s) t) :
    Text.sameLetters s.opening.1 ((t.drop m.span.start).take s.opening.1.length) = true := by
  obtain ⟨c, hc, hm⟩ := h
  obtain ⟨q, hq, rfl⟩ := Pattern.exists_end_of_matchAt? hm
  have hsame := (Shape.ends_opening hq).1
  rwa [hc.rest_eq] at hsame

theorem opening_le (h : m.Of (.anyCase s) t) :
    m.span.start + s.opening.1.length ≤ t.length := by
  have hl := Text.length_eq_of_sameLetters h.opening_same
  have hs := h.add_least_le_stop
  have ht := h.stop_le_length
  rw [List.length_take, List.length_drop] at hl
  omega

/-- A match of a pattern that is a word alone covers the letters of the word. -/
theorem stop_eq_of_full (h : m.Of (.anyCase s) t) (hs : s.opening.2 = true) :
    m.span.stop = m.span.start + s.opening.1.length := by
  obtain ⟨c, hc, hm⟩ := h
  obtain ⟨q, hq, rfl⟩ := Pattern.exists_end_of_matchAt? hm
  have hrest : q.cursor.rest = c.rest.drop s.opening.1.length := (Shape.ends_opening hq).2 hs
  have hle : c.position + s.opening.1.length ≤ t.length := Match.Of.opening_le ⟨c, hc, hm⟩
  have hlen := (Shape.ends_forward hc hq).1.length_rest
  have hlen' := hc.length_rest
  rw [hrest, List.length_drop] at hlen
  show q.cursor.position = c.position + s.opening.1.length
  omega

theorem groupText_avoids {p : Pattern} (h : m.Of p t) {x : Char}
    (hx : p.shape.avoids p.ignoreCase x = true) (number : Nat) : x ∉ m.groupText t number := by
  intro hmem
  obtain ⟨s, hs, i, hle, hlt, hi⟩ := exists_of_mem_groupText hmem
  obtain ⟨hstart, -, hstop, -⟩ := h.group_within hs
  obtain ⟨c, hc, hm⟩ := h
  obtain ⟨q, hq, rfl⟩ := Pattern.exists_end_of_matchAt? hm
  exact (Shape.leads_of_mem_ends hq).getElem?_ne hx hc (Nat.le_trans hstart hle)
    (Nat.lt_of_lt_of_le hlt hstop) hi

theorem groupText_groupsAvoid {p : Pattern} (h : m.Of p t) {x : Char}
    (hx : p.shape.groupsAvoid p.ignoreCase x = true) (number : Nat) :
    x ∉ m.groupText t number := by
  intro hmem
  obtain ⟨s, hs, i, hle, hlt, hi⟩ := exists_of_mem_groupText hmem
  obtain ⟨c, hc, hm⟩ := h
  obtain ⟨q, hq, rfl⟩ := Pattern.exists_end_of_matchAt? hm
  have hkept := Shape.ends_groupsAvoid hx hc hq (mem_groups_of_group? hs)
  exact hkept.resolve_left List.not_mem_nil i hle hlt hi

end Match.Of
end QueryLint
