import QueryLint.Proofs.Sql.Call
import QueryLint.Proofs.Text.Cut

/-! A text cut at the calls of a function: what is kept before each call, the calls, and what is kept
after the last one. Main statements: `exists_parted`, every text is cut at its calls;
`Parted.mapCallsFrom_eq`, the rewriting puts just those calls through its function;
`Parted.callStands` and `Parted.exists_span`, they stand in the text, and every other call begins
inside one of them. -/
namespace QueryLint.Sql
set_option autoImplicit false
open Text

/-! ## Cut at the calls -/

/-- The text after a character is cut at the calls of a function: from left to right, a character is
kept if no call begins at it, and a call is taken as a whole. -/
inductive Parted (name : Text) : Option Char → Cut → Prop
  | nil {before : Option Char} : Parted name before ⟨[], []⟩
  | keep {before : Option Char} {c : Char} {cut : Cut}
      (hfree : ∀ n, ¬IsCall name before (c :: cut.text) n) (others : Parted name (some c) cut) :
      Parted name before (cut.keep c)
  | call {before : Option Char} {call : Text} {cut : Cut}
      (hcall : IsCall name before (call ++ cut.text) call.length)
      (others : Parted name (call.getLast?.or before) cut) : Parted name before (cut.take call)

theorem exists_parted (name : Text) (before : Option Char) (t : Text) :
    ∃ cut : Cut, cut.text = t ∧ Parted name before cut := by
  induction hlength : t.length using Nat.strongRecOn generalizing before t with
  | ind length ih =>
    by_cases hcall : ∃ n, IsCall name before t n
    · obtain ⟨n, hn⟩ := hcall
      obtain ⟨hpos, hle⟩ := hn.length_bounds
      have htake : (t.take n).length = n := List.length_take_of_le hle
      obtain ⟨cut, htext, hcut⟩ := ih (t.drop n).length (by rw [List.length_drop]; omega)
        ((t.take n).getLast?.or before) (t.drop n) rfl
      refine ⟨cut.take (t.take n), ?_, .call ?_ hcut⟩
      · rw [Cut.text_take, htext, List.take_append_drop]
      · rwa [htext, List.take_append_drop, htake]
    · cases t with
      | nil => exact ⟨⟨[], []⟩, rfl, .nil⟩
      | cons c rest =>
        obtain ⟨cut, htext, hcut⟩ := ih rest.length (by rw [← hlength]; exact Nat.lt_add_one _)
          (some c) rest rfl
        refine ⟨cut.keep c, ?_, .keep (fun n hn => hcall ⟨n, ?_⟩) hcut⟩
        · rw [Cut.text_keep, htext]
        · rwa [← htext]

theorem Parted.taken_ne_nil {name : Text} {before : Option Char} {cut : Cut}
    (h : Parted name before cut) : ∀ part ∈ cut.parts, part.2 ≠ [] := by
  induction h with
  | nil => exact fun part hpart => absurd hpart List.not_mem_nil
  | @keep before c cut _ _ ih =>
    obtain ⟨parts, last⟩ := cut
    cases parts with
    | nil => exact fun part hpart => absurd hpart List.not_mem_nil
    | cons part parts => simpa [Cut.keep] using ih
  | call hcall _ ih =>
    exact List.forall_mem_cons.mpr ⟨List.length_pos_iff.mp hcall.length_bounds.1, ih⟩

/-! ## The rewriting follows the cut -/

theorem IsCall.getLast? {name : Text} {before : Option Char} {call rest : Text}
    (h : IsCall name before (call ++ rest) call.length) : call.getLast? = some ')' := by
  have hpos := h.length_bounds.1
  obtain ⟨head, -, -, hclose⟩ := h
  have hlt := (closingParen?_bounds hclose).1
  have hlast := closingFrom_last hclose
  rw [List.getElem?_drop, show head.length - 1 + (call.length - 1 - (head.length - 1))
    = call.length - 1 by omega, List.getElem?_append_left (by omega)] at hlast
  rw [List.getLast?_eq_getElem?, hlast]

theorem IsCall.edge {name : Text} {before : Option Char} {t : Text} {n : Nat}
    (h : IsCall name before t n) : wordEdge before t.head? = true := by
  obtain ⟨head, hhead, ht, -⟩ := h
  obtain ⟨word, gap, -, -, -, hedge⟩ := id hhead
  rwa [← head?_of_begins ht hhead.ne_nil]

namespace Parted

variable {name : Text} {before : Option Char} {cut : Cut}

/-- Every call of the cut is rewritten, and nothing else is, if what takes the places of the calls
leaves no word before what follows. -/
theorem mapCallsFrom_eq {f : Text → Text} (h : Parted name before cut) (hname : IsName name)
    (hf : cut.Seamless f) {before' : Option Char} (hbefore : before'.any isWord = before.any isWord) :
    mapCallsFrom name f before' cut.text = cut.rewrite f := by
  induction h generalizing before' with
  | nil => exact mapCallsFrom_nil
  | keep hfree _ ih =>
    rw [Cut.text_keep, Cut.rewrite_keep, mapCallsFrom_cons hname, ih hf.of_keep rfl]
    exact fun n hn => hfree n (hn.congr_before hbefore.symm)
  | @call before call cut hcall _ ih =>
    obtain ⟨⟨hlast, hempty⟩, hothers⟩ := List.forall_mem_cons.mp hf
    have hcall' := hcall.congr_before hbefore
    rw [Cut.text_take, Cut.rewrite_take, mapCallsFrom_call hcall', ih hothers]
    have hcallEnd : (call.getLast?.or before).any isWord = false := by
      rw [hcall.getLast?]
      rfl
    rw [hcallEnd]
    cases hmade : (f call).getLast? with
    | some c => exact hlast c hmade
    | none =>
      obtain ⟨c, hc⟩ := Option.isSome_iff_exists.mp
        (List.isSome_head?.mpr (List.length_pos_iff.mp hcall.length_bounds.1))
      have hword := hempty (List.getLast?_eq_none_iff.mp hmade) c hc
      have hedge := hcall'.edge
      rw [List.head?_append, hc, Option.some_or] at hedge
      simpa [wordEdge, hword] using hedge

end Parted

theorem Parted.seamless_blanks {name : Text} {before : Option Char} {cut : Cut}
    (h : Parted name before cut) : cut.Seamless fun call => blanks call.length := by
  intro part hpart
  have hpos : 0 < part.2.length := List.length_pos_iff.mpr (h.taken_ne_nil part hpart)
  refine ⟨fun c hc => ?_, fun hempty => ?_⟩
  · rw [List.eq_of_mem_replicate (List.mem_of_mem_getLast? hc)]
    decide
  · exact absurd ((List.replicate_eq_nil_iff ' ').mp hempty) (Nat.ne_of_gt hpos)

/-! ## Where the calls stand -/

/-- A call of the function stands in the text: a head where the stretch begins, and the parenthesis
that closes it where the stretch ends. -/
def CallStands (name t : Text) (s : Span) : Prop :=
  ∃ head, IsHead name (t.take s.start).getLast? head ∧ head <+: t.drop s.start ∧
    closingParen? t (s.start + head.length - 1) = some s.stop

theorem closingFrom_shift {depth : Int} {quote : Option Char} (base position : Nat) (t : Text) :
    closingFrom depth quote (base + position) t
      = (closingFrom depth quote position t).map (base + ·) := by
  induction t generalizing depth quote position with
  | nil => rfl
  | cons c rest ih =>
    simp only [closingFrom, Nat.add_assoc, ih]
    repeat' split
    all_goals rfl

theorem closingParen?_append (front rest : Text) (start : Nat) :
    closingParen? (front ++ rest) (front.length + start)
      = (closingParen? rest start).map (front.length + ·) := by
  rw [closingParen?, List.drop_append, List.drop_eq_nil_of_le (Nat.le_add_right _ _),
    Nat.add_sub_cancel_left, List.nil_append, closingFrom_shift, closingParen?]

theorem callStands_iff {name front rest : Text} {n : Nat} :
    CallStands name (front ++ rest) ⟨front.length, front.length + n⟩
      ↔ IsCall name front.getLast? rest n := by
  have hplace : ∀ {head : Text}, head ≠ [] → (closingParen? (front ++ rest)
      (front.length + head.length - 1) = some (front.length + n)
        ↔ closingParen? rest (head.length - 1) = some n) := by
    intro head hhead
    have hpos := List.length_pos_iff.mpr hhead
    rw [Nat.add_sub_assoc hpos, closingParen?_append, Option.map_eq_some_iff]
    simp
  rw [CallStands, IsCall, List.take_left, List.drop_left]
  refine exists_congr fun head => and_congr_right fun hhead => and_congr_right fun _ => ?_
  exact hplace hhead.ne_nil

theorem CallStands.length_bounds {name t : Text} {s : Span} (h : CallStands name t s) :
    s.start < s.stop ∧ s.stop ≤ t.length := by
  obtain ⟨head, hhead, -, hclose⟩ := h
  have hpos := List.length_pos_iff.mpr hhead.ne_nil
  have hbounds := closingParen?_bounds hclose
  omega

theorem CallStands.isCall {name front rest : Text} {s : Span} (h : CallStands name (front ++ rest) s)
    (hstart : s.start = front.length) : IsCall name front.getLast? rest (s.stop - s.start) := by
  have hbounds := h.length_bounds
  rw [← callStands_iff]
  obtain ⟨start, stop⟩ := s
  obtain rfl : start = front.length := hstart
  rwa [Nat.add_sub_of_le (Nat.le_of_lt hbounds.1)]

theorem CallStands.split {name t : Text} {s : Span} (h : CallStands name t s) :
    ∃ front rest n, t = front ++ rest ∧ s = ⟨front.length, front.length + n⟩ ∧
      IsCall name front.getLast? rest n := by
  have hbounds := h.length_bounds
  have hlength : (t.take s.start).length = s.start := List.length_take_of_le (by omega)
  refine ⟨t.take s.start, t.drop s.start, s.stop - s.start, (List.take_append_drop _ t).symm, ?_, ?_⟩
  · rw [hlength, Nat.add_sub_of_le (Nat.le_of_lt hbounds.1)]
  · rw [← List.take_append_drop s.start t] at h
    exact h.isCall hlength.symm

namespace Parted

variable {name : Text} {before : Option Char} {cut : Cut}

theorem callStands (h : Parted name before cut) (front : Text) (hfront : front.getLast? = before)
    {s : Span} (hs : s ∈ Cut.spansFrom front.length cut.parts) :
    CallStands name (front ++ cut.text) s := by
  induction h generalizing front with
  | nil => exact absurd hs List.not_mem_nil
  | @keep before c cut _ _ ih =>
    rw [Cut.spansFrom_keep] at hs
    have hlater := ih (front ++ [c]) (by simp) (by simpa using hs)
    simpa using hlater
  | @call before call cut hcall _ ih =>
    rw [Cut.spansFrom_take, List.mem_cons] at hs
    rcases hs with rfl | hs
    · rw [callStands_iff, hfront, Cut.text_take]
      exact hcall
    · have hlater := ih (front ++ call) (by rw [List.getLast?_append, hfront])
        (by rwa [List.length_append])
      rwa [List.append_assoc, ← Cut.text_take] at hlater

/-- Every call begins inside a piece that is taken. -/
theorem exists_span (h : Parted name before cut) (front : Text) (hfront : front.getLast? = before)
    {s : Span} (hs : CallStands name (front ++ cut.text) s) (hstart : front.length ≤ s.start) :
    ∃ s' ∈ Cut.spansFrom front.length cut.parts, s'.start ≤ s.start ∧ s.start < s'.stop := by
  induction h generalizing front with
  | nil =>
    have hbounds := hs.length_bounds
    rw [Cut.text_nil, List.append_nil] at hbounds
    omega
  | @keep before c cut hfree _ ih =>
    rcases Nat.eq_or_lt_of_le hstart with heq | hlt
    · rw [Cut.text_keep] at hs
      exact absurd (hfront ▸ hs.isCall heq.symm) (hfree _)
    · rw [Cut.spansFrom_keep]
      have hlater := ih (front ++ [c]) (by simp) (by simpa using hs)
        (by rw [List.length_append]; exact hlt)
      simpa using hlater
  | @call before call cut hcall _ ih =>
    rw [Cut.spansFrom_take]
    rcases Nat.lt_or_ge s.start (front.length + call.length) with hlt | hge
    · exact ⟨_, List.mem_cons_self, hstart, hlt⟩
    · rw [Cut.text_take, ← List.append_assoc] at hs
      obtain ⟨s', hs', hin⟩ := ih (front ++ call) (by rw [List.getLast?_append, hfront]) hs
        (by rwa [List.length_append])
      rw [List.length_append] at hs'
      exact ⟨s', List.mem_cons_of_mem _ hs', hin⟩

end Parted
end QueryLint.Sql
