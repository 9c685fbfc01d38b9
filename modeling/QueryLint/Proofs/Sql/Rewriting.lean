import QueryLint.Proofs.Sql.Parted

/-! The loop that rewrites the calls of a function in place. A round searches the text as it stands by
then, from a position on; it passes a head that is never closed, and else puts the new text in the
place of the call and goes on behind it. Main statements: `Rewriting.round`, what a round leaves to do;
`Rewriting.ends_mapCalls`, the loop ends, within a round for each character, and ends with
`mapCalls`. -/
namespace QueryLint.Sql
set_option autoImplicit false
open Text

/-- The text as it stands, and where the search goes on. -/
structure Rewriting where
  text : Text
  position : Nat
deriving DecidableEq, Repr

namespace Rewriting

/-- One round; no more is to be done if no head is found. -/
def next? (name : Text) (f : Text → Text) (r : Rewriting) : Option Rewriting :=
  match (callHead name).firstFrom? r.text r.position with
  | none => none
  | some m =>
    match closingParen? r.text (m.span.stop - 1) with
    | none => some { r with position := m.span.stop }
    | some stop =>
      let made := f (r.text.slice ⟨m.span.start, stop⟩)
      some ⟨r.text.take m.span.start ++ made ++ r.text.drop stop, m.span.start + made.length⟩

/-- After so many rounds no more is to be done, and the text stands as it is given. -/
def Ends (name : Text) (f : Text → Text) : (rounds : Nat) → Rewriting → Text → Prop
  | 0, r, result => r.next? name f = none ∧ r.text = result
  | rounds + 1, r, result => ∃ r', r.next? name f = some r' ∧ Ends name f rounds r' result

theorem Ends.unique {name : Text} {f : Text → Text} {rounds rounds' : Nat} {r : Rewriting}
    {result result' : Text} (h : Ends name f rounds r result) (h' : Ends name f rounds' r result') :
    rounds = rounds' ∧ result = result' := by
  induction rounds generalizing rounds' r with
  | zero =>
    cases rounds' with
    | zero => exact ⟨rfl, h.2.symm.trans h'.2⟩
    | succ rounds' =>
      obtain ⟨r', hr', -⟩ := h'
      rw [h.1] at hr'
      exact nomatch hr'
  | succ rounds ih =>
    obtain ⟨r₁, hr₁, hlater⟩ := h
    cases rounds' with
    | zero =>
      rw [h'.1] at hr₁
      exact nomatch hr₁
    | succ rounds' =>
      obtain ⟨r₂, hr₂, hlater'⟩ := h'
      obtain rfl := Option.some.inj (hr₁.symm.trans hr₂)
      obtain ⟨rfl, hresult⟩ := ih hlater hlater'
      exact ⟨rfl, hresult⟩

variable {name : Text} {f : Text → Text}

/-- The loop has done with the text up to its position. -/
def after (done rest : Text) : Rewriting := ⟨done ++ rest, done.length⟩

theorem firstFrom?_after (p : Pattern) (done rest : Text) :
    p.firstFrom? (done ++ rest) done.length
      = (Cursor.onward done.getLast? done.length rest).findSome? p.matchAt? := by
  simp only [Pattern.firstFrom?, Cursor.seek, List.take_left, List.drop_left]

theorem headAt?_of_matchAt?_none {before : Option Char} {position : Nat} {t : Text}
    (h : (callHead name).matchAt? ⟨before, position, t⟩ = none) : headAt? name before t = none := by
  refine headAt?_eq_none_iff.mpr fun head ht hhead => ?_
  obtain ⟨m, hm, -⟩ := matchAt?_callHead (c := ⟨before, position, t⟩) hhead ht
  rw [h] at hm
  exact nomatch hm

theorem slice_append_right (front t : Text) (n : Nat) :
    (front ++ t).slice ⟨front.length, front.length + n⟩ = t.take n := by
  rw [Text.slice_eq_take_drop, List.drop_left, Nat.add_sub_cancel_left]

/-- The round that finds a head, after what it has passed and what it has skipped. -/
theorem next?_of_head {r : Rewriting} {m : Match} {front head rest : Text}
    (htext : r.text = front ++ (head ++ rest))
    (hm : (callHead name).firstFrom? r.text r.position = some m)
    (hspan : m.span = ⟨front.length, (front ++ head).length⟩) (hhead : head ≠ []) :
    r.next? name f = some (match closingParen? (head ++ rest) (head.length - 1) with
      | none => after (front ++ head) rest
      | some n => after (front ++ f ((head ++ rest).take n)) ((head ++ rest).drop n)) := by
  have hpos := List.length_pos_iff.mpr hhead
  rw [next?, hm, htext]
  simp only [hspan, List.length_append]
  rw [Nat.add_sub_assoc hpos, closingParen?_append]
  cases closingParen? (head ++ rest) (head.length - 1) with
  | none => simp only [Option.map_none, after, List.append_assoc, List.length_append]
  | some n =>
    simp only [Option.map_some, after, slice_append_right, List.take_left, List.drop_length_add_append,
      List.length_append]

/-- A round takes the loop to where what is done and what is left come to the same. -/
theorem round (name : Text) (f : Text → Text) (done rest : Text) :
    ((after done rest).next? name f = none ∧ mapCallsFrom name f done.getLast? rest = rest) ∨
    ∃ done' rest', (after done rest).next? name f = some (after done' rest') ∧
      rest'.length < rest.length ∧
      done ++ mapCallsFrom name f done.getLast? rest
        = done' ++ mapCallsFrom name f done'.getLast? rest' := by
  have hsearch := firstFrom?_after (callHead name) done rest
  cases hm : (callHead name).firstFrom? (done ++ rest) done.length with
  | none =>
    rw [hm] at hsearch
    refine .inl ⟨by rw [next?, after, hm], ?_⟩
    have hskip : mapCallsFrom name f done.getLast? (rest ++ [])
        = rest ++ mapCallsFrom name f (rest.getLast?.or done.getLast?) [] :=
      mapCallsFrom_skip fun v w hsplit _ => by
        rw [List.append_nil]
        exact headAt?_of_matchAt?_none (Pattern.matchAt?_of_findSome?_none hsearch.symm v w hsplit)
    simpa only [mapCallsFrom_nil, List.append_nil] using hskip
  | some m =>
    rw [hm] at hsearch
    obtain ⟨u, w, rfl, hat, hskipped⟩ := Pattern.exists_of_findSome?_some hsearch.symm
    obtain ⟨head, hhead, ⟨later, rfl⟩, hspan⟩ := exists_isHead_of_matchAt? hat
    have hskip := mapCallsFrom_skip (f := f) fun v v' hsplit hv' =>
      headAt?_of_matchAt?_none (hskipped v v' hsplit hv')
    rw [hskip]
    -- What is skipped counts as done.
    simp only [← List.getLast?_append, ← List.length_append, ← List.append_assoc done] at hhead hspan ⊢
    have hpos := List.length_pos_iff.mpr hhead.ne_nil
    have hnext := next?_of_head (f := f) (r := after done (u ++ (head ++ later)))
      (List.append_assoc done u _).symm hm hspan hhead.ne_nil
    cases hclose : closingParen? (head ++ later) (head.length - 1) with
    | none =>
      rw [hclose] at hnext
      have hat := headAt?_of_isHead hhead (List.prefix_append head later)
      refine .inr ⟨_, _, hnext, ?_, ?_⟩
      · simp only [List.length_append]
        omega
      · rw [mapCallsFrom_unclosed (hclose ▸ hat), List.getLast?_append, Option.or_of_isSome
          (List.getLast?_isSome.mpr hhead.ne_nil), List.append_assoc _ head]
    | some n =>
      rw [hclose] at hnext
      have hcall : IsCall name (done ++ u).getLast? (head ++ later) n :=
        ⟨head, hhead, List.prefix_append head later, hclose⟩
      refine .inr ⟨_, _, hnext, ?_, ?_⟩
      · have hpositive := hcall.length_bounds.1
        rw [List.length_drop]
        simp only [List.length_append] at *
        omega
      · rw [hcall.mapCallsFrom_eq, ← List.append_assoc, ← List.getLast?_append]

/-- The loop ends, within a round for each character that is left. -/
theorem ends_after (name : Text) (f : Text → Text) (done rest : Text) :
    ∃ rounds ≤ rest.length,
      Ends name f rounds (after done rest) (done ++ mapCallsFrom name f done.getLast? rest) := by
  induction hlength : rest.length using Nat.strongRecOn generalizing done rest with
  | ind length ih =>
    rcases round name f done rest with ⟨hnone, hsame⟩ | ⟨done', rest', hnext, hlt, hsame⟩
    · exact ⟨0, Nat.zero_le _, hnone, by rw [hsame]; rfl⟩
    · obtain ⟨rounds, hle, hends⟩ := ih rest'.length (hlength ▸ hlt) done' rest' rfl
      exact ⟨rounds + 1, by omega, _, hnext, hsame ▸ hends⟩

theorem ends_mapCalls (name : Text) (f : Text → Text) (t : Text) :
    ∃ rounds ≤ t.length, Ends name f rounds ⟨t, 0⟩ (mapCalls name f t) :=
  ends_after name f [] t

end Rewriting

/-! ## Replacing and masking -/

/-- A cut of the text at calls of the function, outside which no call begins. -/
structure CutsCalls (name t : Text) (cut : Cut) : Prop where
  text : cut.text = t
  calls : ∀ s ∈ cut.spans, CallStands name t s
  others : ∀ s, CallStands name t s → ∃ s' ∈ cut.spans, s'.start ≤ s.start ∧ s.start < s'.stop

theorem Parted.cutsCalls {name : Text} {cut : Cut} (h : Parted name none cut) :
    CutsCalls name cut.text cut :=
  ⟨rfl, fun _ hs => h.callStands [] rfl hs, fun _ hs => h.exists_span [] rfl hs (Nat.zero_le _)⟩

/-- Replacing and masking take the same calls. Replacing leaves each of them out for the replacement,
as long as it ends in no word character; an empty one has the calls begin a word, or what follows a
call would be seen after the word in front of it. Masking blanks them. Both loops end, whatever the
replacement is. -/
theorem replaceCalls_maskCalls_same {name replacement : Text} (hname : IsName name)
    (hreplacement : ∀ c ∈ replacement.getLast?, isWord c = false) (t : Text) :
    ∃ cut, CutsCalls name t cut ∧
      ((replacement = [] → ∀ part ∈ cut.parts, ∀ c ∈ part.2.head?, isWord c = true) →
        replaceCalls name replacement t = cut.rewrite fun _ => replacement) ∧
      maskCalls [name] t = cut.rewrite (fun call => blanks call.length) ∧
      (∃ rounds ≤ t.length, Rewriting.Ends name (fun _ => replacement) rounds ⟨t, 0⟩
        (replaceCalls name replacement t)) ∧
      ∃ rounds ≤ t.length, Rewriting.Ends name (fun call => blanks call.length) rounds ⟨t, 0⟩
        (maskCalls [name] t) := by
  obtain ⟨cut, rfl, hcut⟩ := exists_parted name none t
  refine ⟨cut, hcut.cutsCalls, fun hword => ?_, ?_, Rewriting.ends_mapCalls name _ _,
    Rewriting.ends_mapCalls name _ _⟩
  · exact hcut.mapCallsFrom_eq hname
      (fun part hpart => ⟨hreplacement, fun hempty => hword hempty part hpart⟩) rfl
  · exact hcut.mapCallsFrom_eq hname (hcut.seamless_blanks) rfl

/-- A call inside another, and a replacement that is a call itself. -/
theorem nestedCalls_same :
    IsName ['f'] ∧ (∀ c ∈ "f(1)".toList.getLast?, isWord c = false) ∧
      ∃ cut, CutsCalls ['f'] "f(f(x)), g(f(y))".toList cut ∧
        cut.rewrite (fun _ => "f(1)".toList) = "f(1), g(f(1))".toList ∧
        cut.rewrite (fun call => blanks call.length) = "       , g(    )".toList := by
  have hname : IsName ['f'] := by decide
  have hreplacement : ∀ c ∈ "f(1)".toList.getLast?, isWord c = false := by
    intro c hc
    obtain rfl : ')' = c := Option.some.inj hc
    decide
  obtain ⟨cut, hcut, hreplace, hmask, -⟩ :=
    replaceCalls_maskCalls_same hname hreplacement "f(f(x)), g(f(y))".toList
  refine ⟨hname, hreplacement, cut, hcut, ?_, ?_⟩
  · rw [← hreplace fun hempty => nomatch hempty]
    decide +kernel
  · rw [← hmask]
    decide +kernel

/-- Case aside an iota is the same as the combining mark U+0345, which is no word character. The second
mark follows a parenthesis, so no word ends there and no call begins. When the call in front of it is cut
out, it follows a word, and is taken for a call as well; when that is blanked, it stays. -/
theorem iotaCalls_not_same :
    IsName ['ι'] ∧ (∀ c ∈ ([] : Text).getLast?, isWord c = false) ∧
      ¬∃ cut, CutsCalls ['ι'] "x\u0345(a)\u0345(b)".toList cut ∧
        replaceCalls ['ι'] [] "x\u0345(a)\u0345(b)".toList = cut.rewrite (fun _ => []) ∧
        maskCalls [['ι']] "x\u0345(a)\u0345(b)".toList
          = cut.rewrite fun call => blanks call.length := by
  refine ⟨by decide +kernel, by simp, ?_⟩
  rintro ⟨cut, -, hreplace, hmask⟩
  have hb : 'b' ∈ maskCalls [['ι']] "x\u0345(a)\u0345(b)".toList := by decide +kernel
  have hcut : 'b' ∉ replaceCalls ['ι'] [] "x\u0345(a)\u0345(b)".toList := by decide +kernel
  rw [hmask] at hb
  rw [hreplace] at hcut
  exact hcut (cut.mem_of_mem_masked hb (by decide))

end QueryLint.Sql
