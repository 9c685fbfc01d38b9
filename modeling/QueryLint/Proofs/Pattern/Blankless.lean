import QueryLint.Proofs.Pattern.Layout

/-! Matches without white space. A shape all of whose characters are solid takes a solid stretch, and a
group with such a body keeps one. Main statements: `Shape.Leads.solidBetween`, by induction on the way of a
match, and `Match.Of.groupText_solid`. -/
namespace QueryLint
set_option autoImplicit false
open Text

/-- No white space stands between two positions. -/
def SolidBetween (t : Text) (start stop : Nat) : Prop :=
  ∀ i : Nat, start ≤ i → i < stop → ∀ c ∈ t[i]?, isBlank c = false

theorem SolidBetween.trans {t : Text} {i j k : Nat} (h : SolidBetween t i j) (h' : SolidBetween t j k) :
    SolidBetween t i k := by
  intro n hi hk
  rcases Nat.lt_or_ge n j with hlt | hge
  · exact h n hi hlt
  · exact h' n hge hk

theorem solidBetween_self (t : Text) (i : Nat) : SolidBetween t i i :=
  fun _ hi hlt => absurd hi (Nat.not_le_of_lt hlt)

namespace Shape

/-- Whether every character that a match takes is solid. -/
def bare (blind : Bool) : Shape → Bool
  | one set => set.refusesBlanks blind
  | seq a b | either a b => a.bare blind && b.bare blind
  | many _ body | group _ body => body.bare blind
  | nothing | edge | finish | notHere _ | notAfter _ => true

/-- Whether the groups of a match hold solid characters only. -/
def bareGroups (blind : Bool) : Shape → Bool
  | seq a b | either a b => a.bareGroups blind && b.bareGroups blind
  | many _ body => body.bareGroups blind
  | group _ body => body.bare blind && body.bareGroups blind
  | nothing | one _ | edge | finish | notHere _ | notAfter _ => true

variable {t : Text} {blind : Bool} {s : Shape} {p q : Progress}

theorem Leads.solidBetween (h : Leads blind s p q) (hs : s.bare blind = true) (hp : p.cursor.InText t) :
    SolidBetween t p.cursor.position q.cursor.position := by
  induction h with
  | nothing | done | edge | finish | notHere | notAfter => exact solidBetween_self t _
  | one hrest hhas =>
    intro i hi hlt d hd
    obtain rfl := Nat.le_antisymm (Nat.le_of_lt_succ hlt) hi
    rw [← hp.head?_rest, hrest] at hd
    obtain rfl := Option.some.inj hd
    refine Bool.eq_false_iff.mpr fun hblank => ?_
    exact Bool.noConfusion (hhas.symm.trans (CharSet.has_of_refusesBlanks hs hblank))
  | seq hfirst _ ihfirst ihsecond =>
    rw [bare, Bool.and_eq_true] at hs
    exact (ihfirst hs.1 hp).trans (ihsecond hs.2 (hfirst.forward hp).1)
  | left _ ih =>
    rw [bare, Bool.and_eq_true] at hs
    exact ih hs.1 hp
  | right _ ih =>
    rw [bare, Bool.and_eq_true] at hs
    exact ih hs.2 hp
  | more honce _ ihonce ihagain => exact (ihonce hs hp).trans (ihagain hs (honce.forward hp).1)
  | group _ ih => exact ih hs hp

/-- What a match keeps is solid, if what was kept before is. -/
theorem Leads.groups_solid (h : Leads blind s p q) (hs : s.bareGroups blind = true)
    (hp : p.cursor.InText t) (hgroups : ∀ g ∈ p.groups, SolidBetween t g.2.start g.2.stop) :
    ∀ g ∈ q.groups, SolidBetween t g.2.start g.2.stop := by
  induction h with
  | nothing | one | done | edge | finish | notHere | notAfter => exact hgroups
  | seq hfirst _ ihfirst ihsecond =>
    rw [bareGroups, Bool.and_eq_true] at hs
    exact ihsecond hs.2 (hfirst.forward hp).1 (ihfirst hs.1 hp hgroups)
  | left _ ih =>
    rw [bareGroups, Bool.and_eq_true] at hs
    exact ih hs.1 hp hgroups
  | right _ ih =>
    rw [bareGroups, Bool.and_eq_true] at hs
    exact ih hs.2 hp hgroups
  | more honce _ ihonce ihagain => exact ihagain hs (honce.forward hp).1 (ihonce hs hp hgroups)
  | group hway ih =>
    rw [bareGroups, Bool.and_eq_true] at hs
    exact List.forall_mem_cons.mpr ⟨hway.solidBetween hs.1 hp, ih hs.2 hp hgroups⟩

end Shape

theorem Match.Of.groupText_solid {p : Pattern} {t : Text} {m : Match} (h : m.Of p t)
    (hp : p.shape.bareGroups p.ignoreCase = true) (number : Nat) :
    ∀ c ∈ m.groupText t number, isBlank c = false := by
  intro d hd
  obtain ⟨s, hs, i, hle, hlt, hi⟩ := exists_of_mem_groupText hd
  obtain ⟨c, hc, hm⟩ := h
  obtain ⟨q, hq, rfl⟩ := Pattern.exists_end_of_matchAt? hm
  have hkept := (Shape.leads_of_mem_ends hq).groups_solid hp hc fun g hg => absurd hg List.not_mem_nil
  exact hkept _ (mem_groups_of_group? hs) i hle hlt d hi

end QueryLint
