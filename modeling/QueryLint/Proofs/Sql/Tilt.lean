import QueryLint.Proofs.Sql.Balance
import QueryLint.Sql.PlainForm

/-! How the matches of a shape tilt the level of parentheses, where it is the same for all of them.
The tilt is read off the shape; main statements: `Shape.ends_tilt`, every match keeps to it, and
`castSuffix_balanced`, what a cast takes is balanced. -/
namespace QueryLint
set_option autoImplicit false
open Sql

/-- By how much a text raises the level, and how far it dips below its start at most. -/
structure Tilt where
  rise : Int
  dip : Int
deriving DecidableEq, Repr

namespace Tilt

structure Of (a : Tilt) (t : Text) : Prop where
  rise : level t = a.rise
  dip : Above a.dip t

def flat : Tilt := ⟨0, 0⟩

def andThen (a b : Tilt) : Tilt := ⟨a.rise + b.rise, max a.dip (b.dip - a.rise)⟩

theorem of_plain {t : Text} (h : Plain t) : flat.Of t := ⟨h.level, h.above (Int.le_refl 0)⟩

variable {a b : Tilt} {s t : Text}

theorem Of.andThen (hs : a.Of s) (ht : b.Of t) : (a.andThen b).Of (s ++ t) := by
  refine ⟨by rw [level_append, hs.rise, ht.rise]; rfl, above_append.mpr ⟨?_, ?_⟩⟩
  · exact hs.dip.mono (Int.le_max_left _ _)
  · refine ht.dip.mono ?_
    rw [hs.rise]
    simp only [Tilt.andThen]
    omega

theorem Of.dip_le (h : a.Of t) {dip : Int} (hle : a.dip ≤ dip) : (Tilt.mk a.rise dip).Of t :=
  ⟨h.rise, h.dip.mono hle⟩

/-- A text that is as high at its end as at its start, and never lower, is balanced. -/
theorem Of.balanced (h : flat.Of t) : Balanced t := balanced_iff.mpr ⟨h.dip, h.rise⟩

end Tilt

namespace CharSet

/-- The tilt of the characters of a set: one of the parentheses alone, or neither. -/
def tilt? (blind : Bool) (set : CharSet) : Option Tilt :=
  if set = ⟨[.char '('], false⟩ then some ⟨1, 0⟩
  else if set = ⟨[.char ')'], false⟩ then some ⟨-1, 1⟩
  else if set.has blind '(' || set.has blind ')' then none
  else some .flat

theorem of_tilt? {blind : Bool} {set : CharSet} {a : Tilt} (h : set.tilt? blind = some a) {c : Char}
    (hc : set.has blind c = true) : a.Of [c] := by
  rw [tilt?] at h
  split at h
  · rename_i hset
    subst hset
    obtain rfl := Option.some.inj h
    obtain rfl := eq_of_has_single (by decide) rfl hc
    exact ⟨rfl, fun n => by cases n <;> simp⟩
  · split at h
    · rename_i hset
      subst hset
      obtain rfl := Option.some.inj h
      obtain rfl := eq_of_has_single (by decide) rfl hc
      exact ⟨rfl, fun n => by cases n <;> simp⟩
    · split at h
      · exact nomatch h
      · rename_i hneither
        obtain rfl := Option.some.inj h
        refine Tilt.of_plain fun d hd => ?_
        obtain rfl := List.mem_singleton.mp hd
        simp only [Bool.or_eq_true, not_or] at hneither
        constructor <;> rintro rfl
        · exact hneither.1 hc
        · exact hneither.2 hc

end CharSet

namespace Shape

/-- The tilt of every match, if the shape settles it. -/
def tilt? (blind : Bool) : Shape → Option Tilt
  | one set => set.tilt? blind
  | seq first second =>
    match first.tilt? blind, second.tilt? blind with
    | some a, some b => some (a.andThen b)
    | _, _ => none
  | either first second =>
    match first.tilt? blind, second.tilt? blind with
    | some a, some b => if a.rise = b.rise then some ⟨a.rise, max a.dip b.dip⟩ else none
    | _, _ => none
  | many _ body =>
    match body.tilt? blind with
    | some a => if a.rise = 0 then some ⟨0, max 0 a.dip⟩ else none
    | none => none
  | group _ body => body.tilt? blind
  | nothing | edge | finish | notHere _ | notAfter _ => some .flat

section Cases

variable {blind greedy : Bool} {first second body : Shape} {a : Tilt}

theorem of_tilt?_seq (h : (seq first second).tilt? blind = some a) :
    ∃ b c, first.tilt? blind = some b ∧ second.tilt? blind = some c ∧ a = b.andThen c := by
  rw [tilt?] at h
  split at h
  · rename_i b c hfirst hsecond
    exact ⟨b, c, hfirst, hsecond, (Option.some.inj h).symm⟩
  · cases h

theorem of_tilt?_either (h : (either first second).tilt? blind = some a) :
    ∃ b c, first.tilt? blind = some b ∧ second.tilt? blind = some c ∧ b.rise = c.rise ∧
      a = ⟨b.rise, max b.dip c.dip⟩ := by
  rw [tilt?] at h
  split at h
  · rename_i b c hfirst hsecond
    obtain ⟨hrise, h⟩ := Option.ite_none_right_eq_some.mp h
    exact ⟨b, c, hfirst, hsecond, hrise, (Option.some.inj h).symm⟩
  · cases h

theorem of_tilt?_many (h : (many greedy body).tilt? blind = some a) :
    ∃ b, body.tilt? blind = some b ∧ b.rise = 0 ∧ a = ⟨0, max 0 b.dip⟩ := by
  rw [tilt?] at h
  split at h
  · rename_i b hbody
    obtain ⟨hrise, h⟩ := Option.ite_none_right_eq_some.mp h
    exact ⟨b, hbody, hrise, (Option.some.inj h).symm⟩
  · cases h

end Cases

/-- Every match takes a text that keeps to the tilt of the shape. -/
theorem ends_tilt {blind : Bool} {s : Shape} {a : Tilt} (hs : s.tilt? blind = some a)
    {p q : Progress} (hq : q ∈ s.ends blind p) :
    ∃ w, w <+: p.cursor.rest ∧ q.cursor = p.cursor.past w ∧ a.Of w := by
  have hflat : Tilt.flat.Of [] := Tilt.of_plain fun c hc => absurd hc List.not_mem_nil
  replace hq := leads_of_mem_ends hq
  induction hq generalizing a with
  | nothing | edge | finish | notHere | notAfter =>
    obtain rfl := Option.some.inj hs
    exact ⟨[], List.nil_prefix, rfl, hflat⟩
  | one hrest hhas =>
    obtain ⟨hc, hpast⟩ := Cursor.past_single hrest
    exact ⟨_, hc, hpast, CharSet.of_tilt? hs hhas⟩
  | seq _ _ ihfirst ihsecond =>
    obtain ⟨b, c, hfirst, hsecond, rfl⟩ := of_tilt?_seq hs
    obtain ⟨v, hv, hrv, hb⟩ := ihfirst hfirst
    obtain ⟨w, hw, hqw, hc⟩ := ihsecond hsecond
    rw [hrv] at hw hqw
    exact ⟨v ++ w, (prefix_drop_iff hv).mp hw, hqw.trans (Cursor.past_past _ v w), hb.andThen hc⟩
  | left _ ih =>
    obtain ⟨b, c, hfirst, -, -, rfl⟩ := of_tilt?_either hs
    obtain ⟨w, hw, hqw, hb⟩ := ih hfirst
    exact ⟨w, hw, hqw, hb.dip_le (Int.le_max_left _ _)⟩
  | right _ ih =>
    obtain ⟨b, c, -, hsecond, hrise, rfl⟩ := of_tilt?_either hs
    obtain ⟨w, hw, hqw, hc⟩ := ih hsecond
    exact ⟨w, hw, hqw, hrise ▸ hc.dip_le (Int.le_max_right _ _)⟩
  | done =>
    obtain ⟨b, -, -, rfl⟩ := of_tilt?_many hs
    exact ⟨[], List.nil_prefix, rfl, hflat.dip_le (Int.le_max_left 0 b.dip)⟩
  | more _ _ ihonce ihagain =>
    obtain ⟨b, hbody, hrise, rfl⟩ := of_tilt?_many hs
    obtain ⟨v, hv, hrv, hb⟩ := ihonce hbody
    obtain ⟨w, hw, hqw, hagain⟩ := ihagain hs
    rw [hrv] at hw hqw
    refine ⟨v ++ w, (prefix_drop_iff hv).mp hw, hqw.trans (Cursor.past_past _ v w), ?_⟩
    -- A repetition is as high at its end as at its start, so those after it dip no lower than it may.
    have hdip : (b.andThen ⟨0, max 0 b.dip⟩).dip ≤ max 0 b.dip := by
      simp only [Tilt.andThen]
      omega
    have hboth := (hb.andThen hagain).dip_le hdip
    simpa only [Tilt.andThen, Int.add_zero, hrise] using hboth
  | group _ ih => exact ih hs

end Shape

theorem Match.Of.tilt {p : Pattern} {t : Text} {m : Match} (h : m.Of p t) {a : Tilt}
    (hp : p.shape.tilt? p.ignoreCase = some a) : a.Of (m.text t) := by
  obtain ⟨c, hc, hm⟩ := h
  obtain ⟨q, hq, rfl⟩ := Pattern.exists_end_of_matchAt? hm
  obtain ⟨w, hw, hqw, ha⟩ := Shape.ends_tilt hp hq
  have htext : (Match.mk ⟨c.position, q.cursor.position⟩ q.groups).text t = w := by
    rw [Match.text, Text.slice_eq_take_drop, hqw, Cursor.past_position, Nat.add_sub_cancel_left,
      ← hc.rest_eq]
    exact (List.prefix_iff_eq_take.mp hw).symm
  rwa [htext]

namespace Sql

theorem castSuffix_tilt : castSuffix.shape.tilt? castSuffix.ignoreCase = some .flat := by
  decide +kernel

theorem castSuffix_balanced {t : Text} {m : Match} (h : m.Of castSuffix t) : Balanced (m.text t) :=
  (h.tilt castSuffix_tilt).balanced

end Sql
end QueryLint
