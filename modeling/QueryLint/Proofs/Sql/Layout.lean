import QueryLint.Proofs.Pattern.Layout
import QueryLint.Proofs.Sql.DistinctFrom

/-! Parentheses and masked calls in two texts that differ in the white space at one place. Groups close at
opposite places, and masking leaves two texts of that kind: the white space is kept, or blanked together
with a call around it. Main statements: `closingParen?_opposite` and `maskCalls_arranged`. -/
namespace QueryLint.Sql
set_option autoImplicit false
open Text

variable {l : Layout}

/-! ## Parentheses -/

theorem closingFrom_gap {gap : Text} (hgap : ∀ c ∈ gap, isBlank c = true) {depth : Int} {quote : Option Char}
    (hquote : ∀ q ∈ quote, isQuote q = true) (position : Nat) (rest : Text) :
    closingFrom depth quote position (gap ++ rest) = closingFrom depth quote (position + gap.length) rest := by
  induction gap generalizing position with
  | nil => rfl
  | cons c gap ih =>
    obtain ⟨hc, hothers⟩ := List.forall_mem_cons.mp hgap
    obtain ⟨hsign, hopen, hclose, -⟩ := noSign_of_class (p := isBlank) (by decide) hc
    have hlater := ih hothers (position + 1)
    rw [Nat.add_assoc, Nat.add_comm 1] at hlater
    rw [List.cons_append, List.length_cons, ← hlater]
    cases quote with
    | none => exact closingFrom_plain hsign hopen hclose
    | some q =>
      have hne : c ≠ q := by
        rintro rfl
        exact nomatch hsign.symm.trans (hquote c rfl)
      exact closingFrom_quoted hne

/-- The scan goes through the white space, in quotes or not, and ends at opposite places. -/
theorem closingFrom_opposite {u : Text} {depth : Int} {quote : Option Char} {position : Nat}
    (hquote : ∀ q ∈ quote, isQuote q = true) (hu : position + u.length = l.front.length) :
    Option.Rel l.Opposite (closingFrom depth quote position (u ++ (l.gap ++ l.back)))
      (closingFrom depth quote position (u ++ (l.gap' ++ l.back))) := by
  induction u generalizing depth quote position with
  | nil =>
    rw [List.nil_append, List.nil_append, closingFrom_gap l.blank hquote, closingFrom_gap l.blank' hquote,
      show position = l.front.length from hu]
    have hshift : closingFrom depth quote (l.stop + 0) l.back = _ := closingFrom_shift l.stop 0 l.back
    have hshift' : closingFrom depth quote (l.swap.stop + 0) l.back = _ :=
      closingFrom_shift l.swap.stop 0 l.back
    show Option.Rel l.Opposite (closingFrom depth quote l.stop l.back)
      (closingFrom depth quote l.swap.stop l.back)
    rw [Nat.add_zero] at hshift hshift'
    rw [hshift, hshift']
    cases closingFrom depth quote 0 l.back with
    | none => exact .none
    | some k => exact .some (.right k)
  | cons c u ih =>
    rw [List.length_cons] at hu
    have hnext : ∀ {depth : Int} {quote : Option Char}, (∀ q ∈ quote, isQuote q = true) →
        Option.Rel l.Opposite (closingFrom depth quote (position + 1) (u ++ (l.gap ++ l.back)))
          (closingFrom depth quote (position + 1) (u ++ (l.gap' ++ l.back))) :=
      fun hquote => ih hquote (by omega)
    simp only [List.cons_append, closingFrom]
    split
    · split
      · exact hnext hquote
      · split
        · split
          · exact .some (.left (by omega))
          · exact hnext hquote
        · exact hnext hquote
    · exact hnext (quoteAfter_isQuote hquote)

theorem closingParen?_opposite {i i' : Nat} (h : l.Opposite i i') :
    Option.Rel l.Opposite (closingParen? l.text i) (closingParen? l.text' i') := by
  cases h with
  | left hi =>
    have hdrop : ∀ m : Layout, i ≤ m.front.length →
        m.text.drop i = m.front.drop i ++ (m.gap ++ m.back) :=
      fun m hm => List.drop_append_of_le_length hm
    rw [closingParen?, closingParen?, hdrop l hi, show l.text'.drop i = _ from hdrop l.swap hi]
    refine closingFrom_opposite (by simp) ?_
    rw [List.length_drop]
    omega
  | right k =>
    have hdrop' : l.text'.drop (l.swap.stop + k) = l.back.drop k := Layout.drop_right (l := l.swap) k
    have hshift : closingFrom 0 none (l.stop + k) (l.back.drop k) = _ :=
      closingFrom_shift l.stop k (l.back.drop k)
    have hshift' : closingFrom 0 none (l.swap.stop + k) (l.back.drop k) = _ :=
      closingFrom_shift l.swap.stop k (l.back.drop k)
    rw [closingParen?, closingParen?, Layout.drop_right, hdrop', hshift, hshift']
    cases closingFrom 0 none k (l.back.drop k) with
    | none => exact .none
    | some j => exact .some (.right j)

/-! ## Calls -/

variable {name : Text} {before : Option Char}

/-- White space before a solid character, if it comes to the place, has all the white space of it. -/
theorem exists_around {u run after : Text} {d : Char} (hrun : ∀ c ∈ run, isBlank c = true)
    (hd : isBlank d = false) (htext : l.text = u ++ (run ++ d :: after)) (hu : u.length ≤ l.front.length)
    (hle : l.front.length ≤ (u ++ run).length) :
    ∃ f b, l.front = u ++ f ∧ run = f ++ (l.gap ++ b) ∧ l.back = b ++ d :: after := by
  obtain ⟨f, hfront⟩ : u <+: l.front :=
    List.prefix_of_prefix_length_le ⟨_, htext.symm⟩ (List.prefix_append _ _) hu
  have hrest : (f ++ l.gap) ++ l.back = run ++ d :: after := by
    rw [Layout.text, ← hfront, List.append_assoc, List.append_cancel_left_eq] at htext
    rwa [List.append_assoc]
  have hf : f <+: run := by
    refine List.prefix_of_prefix_length_le ⟨l.gap ++ l.back, ?_⟩ ⟨_, hrest.symm⟩ ?_
    · rw [← List.append_assoc]
    · rw [← hfront, List.length_append, List.length_append] at hle
      exact Nat.le_of_add_le_add_left hle
  obtain ⟨b, hb⟩ : f ++ l.gap <+: run := by
    refine List.prefix_of_prefix_length_le (List.prefix_append _ _) ⟨_, hrest.symm⟩
      (Nat.le_of_not_lt fun hlt => ?_)
    have hsolid : run ++ [d] <+: f ++ l.gap :=
      List.prefix_of_prefix_length_le ⟨after, by rw [List.append_assoc]; exact hrest.symm⟩
        (List.prefix_append _ _) (by rw [List.length_append, List.length_singleton]; exact hlt)
    rcases List.mem_append.mp (hsolid.subset (List.mem_append_right run List.mem_cons_self)) with hmem | hmem
    · exact Bool.noConfusion (hd.symm.trans (hrun d (hf.subset hmem)))
    · exact Bool.noConfusion (hd.symm.trans (l.blank d hmem))
  rw [← hb, List.append_assoc (f ++ l.gap), List.append_cancel_left_eq] at hrest
  exact ⟨f, b, hfront.symm, by rw [← hb, List.append_assoc], hrest⟩

/-- A word at the beginning ends before the white space. -/
theorem length_word_le {word : Text} (hword : ∀ c ∈ word, isWord c = true) (hbegins : word <+: l.text) :
    word.length ≤ l.front.length := by
  refine Nat.le_of_not_lt fun hlt => ?_
  obtain ⟨x, hx, hspace⟩ := l.getElem?_within (Nat.le_refl _) l.front_lt_stop
  obtain rfl := Option.some.inj (hx.symm.trans (List.prefix_iff_getElem?.mp hbegins _ hlt))
  exact Bool.noConfusion ((hword _ (List.getElem_mem hlt)).symm.trans (isWord_of_isBlank hspace))

/-- A head is met again in the other text, with the white space changed if it goes through it. -/
theorem IsHead.opposite {head : Text} (hname : IsWordName name) (h : IsHead name before head)
    (hbegins : head <+: l.text) :
    ∃ head', IsHead name before head' ∧ head' <+: l.text' ∧
      l.Opposite (head.length - 1) (head'.length - 1) := by
  by_cases hle : head.length ≤ l.front.length
  · have hfront : head <+: l.front := List.prefix_of_prefix_length_le hbegins (List.prefix_append _ _) hle
    exact ⟨head, h, hfront.trans (List.prefix_append _ _), .left (by omega)⟩
  · obtain ⟨word, gap, rfl, hsame, hblank, hedge⟩ := h
    obtain ⟨after, hafter⟩ := hbegins
    have htext : l.text = word ++ (gap ++ '(' :: after) := by
      rw [← hafter, List.append_assoc, List.append_assoc]
      rfl
    have hword := length_word_le (hname.isWord_of_sameLetters hsame) ⟨_, htext.symm⟩
    have hcovers : l.front.length ≤ (word ++ gap).length := by
      simp only [List.length_append, List.length_singleton] at hle ⊢
      omega
    obtain ⟨f, b, hfront, rfl, hback⟩ := exists_around hblank (by decide) htext hword hcovers
    obtain ⟨hf, hgapBack⟩ := List.forall_mem_append.mp hblank
    obtain ⟨-, hb⟩ := List.forall_mem_append.mp hgapBack
    refine ⟨word ++ ((f ++ (l.gap' ++ b)) ++ ['(']), ⟨word, _, rfl, hsame, ?_, ?_⟩, ⟨after, ?_⟩, ?_⟩
    · exact List.forall_mem_append.mpr ⟨hf, List.forall_mem_append.mpr ⟨l.blank', hb⟩⟩
    · have hne := hname.ne_nil_of_sameLetters hsame
      rw [List.head?_append_of_ne_nil _ hne] at hedge ⊢
      exact hedge
    · show _ = l.front ++ (l.gap' ++ l.back)
      rw [hfront, hback]
      simp only [List.append_assoc, List.singleton_append]
    · have hstop : ∀ m : Layout, m.front = l.front →
          (word ++ ((f ++ (m.gap ++ b)) ++ ['('])).length - 1 = m.stop + b.length := by
        intro m hm
        rw [Layout.stop, hm, hfront]
        simp only [List.length_append, List.length_singleton]
        omega
      have hopposite := Layout.Opposite.right (l := l) b.length
      rwa [← hstop l rfl, ← hstop l.swap rfl] at hopposite

theorem IsCall.opposite {n : Nat} (hname : IsWordName name) (h : IsCall name before l.text n) :
    ∃ n', l.Opposite n n' ∧ IsCall name before l.text' n' := by
  obtain ⟨head, hhead, hbegins, hclose⟩ := h
  obtain ⟨head', hhead', hbegins', hopposite⟩ := hhead.opposite hname hbegins
  rcases rel_cases (closingParen?_opposite hopposite) with ⟨hnone, -⟩ | ⟨stop, n', hstop, hclose', hn⟩
  · exact absurd (hclose.symm.trans hnone) (Option.some_ne_none n)
  · obtain rfl := Option.some.inj (hclose.symm.trans hstop)
    exact ⟨n', hn, head', hhead', hbegins', hclose'⟩

/-! ## Masked calls -/

/-- The white space is wide, or what stands before it ends like FROM and a subquery follows. -/
def Framed (before : Option Char) (l : Layout) : Prop :=
  (12 < l.gap.length ∧ 12 < l.gap'.length) ∨
    (l.front.getLast?.or before = some 'M' ∧ "(SELECT ".toList <+: l.back)

theorem Framed.swap (h : Framed before l) : Framed before l.swap := h.imp_left And.symm

theorem framed_withFront_append {u v : Text} :
    Framed before (l.withFront (u ++ v)) ↔ Framed (u.getLast?.or before) (l.withFront v) := by
  simp only [Framed, Layout.withFront, List.getLast?_append, Option.or_assoc]

theorem Framed.drop {u v : Text} (h : Framed before l) (hfront : l.front = u ++ v) :
    Framed (u.getLast?.or before) (l.withFront v) := by
  refine framed_withFront_append.mp ?_
  rw [← hfront]
  exact h

/-- What stands before does not matter if it does not end like FROM. -/
theorem Framed.of_before {c : Char} (hc : c ≠ 'M') (h : Framed (some c) l) : Framed before l := by
  refine h.imp_right fun h => ⟨?_, h.2⟩
  have hlast := h.1
  cases hfront : l.front.getLast? with
  | none =>
    rw [hfront, Option.none_or] at hlast
    exact absurd (Option.some.inj hlast) hc
  | some x => rwa [hfront] at hlast

/-- A word that a call can be masked by, but no short one, and not SELECT. -/
structure IsMasked (name : Text) : Prop where
  isWordName : IsWordName name
  four_le : 4 ≤ name.length
  not_select : sameLetters name "SELECT".toList = false

theorem isMasked_callsWithFrom : ∀ name ∈ callsWithFrom, IsMasked name := by
  have hall : ∀ name ∈ callsWithFrom, 4 ≤ name.length ∧ sameLetters name "SELECT".toList = false := by decide
  exact fun name hname => ⟨callsWithFrom_words name hname, (hall name hname).1, (hall name hname).2⟩

theorem not_isCall_of_blank (hname : IsWordName name) {c : Char} (hc : isBlank c = true) {rest : Text} {n : Nat} :
    ¬IsCall name before (c :: rest) n := by
  rintro ⟨head, hhead, hbegins, -⟩
  obtain ⟨d, hd, hword⟩ := hhead.head?_isWord hname
  rw [head?_of_begins hbegins hhead.ne_nil] at hd
  obtain rfl := Option.some.inj hd
  exact nomatch hword.symm.trans (isWord_of_isBlank hc)

theorem IsHead.leadingWord {head rest : Text} (hname : IsWordName name) (h : IsHead name before head)
    (hbegins : head <+: rest) : sameLetters name (leadingWord rest) = true := by
  obtain ⟨word, gap, rfl, hsame, hblank, -⟩ := h
  obtain ⟨after, rfl⟩ := hbegins
  have hends : WordEnds (gap ++ ('(' :: after)) := by
    cases gap with
    | nil => exact wordEnds_cons.mpr (by decide)
    | cons c gap => exact wordEnds_cons.mpr (isWord_of_isBlank (hblank c List.mem_cons_self))
  have hleading := leadingWord_append (hname.isWord_of_sameLetters hsame) hends
  rw [List.append_assoc, List.append_assoc, List.singleton_append, hleading]
  exact hsame

theorem Parted.skip_gap {cut : Cut} {gap rest : Text} (h : Parted name before cut) (hname : IsWordName name)
    (hgap : ∀ c ∈ gap, isBlank c = true) (htext : cut.text = gap ++ rest) :
    ∃ cut', Parted name (gap.getLast?.or before) cut' ∧ cut'.text = rest ∧ cut.masked = gap ++ cut'.masked := by
  obtain ⟨cut', hcut', htext', hmasked⟩ := h.skip htext fun v w hsplit hw n => by
    obtain ⟨c, w, rfl⟩ := List.exists_cons_of_ne_nil hw
    exact not_isCall_of_blank hname (hgap c (hsplit ▸ List.mem_append_right v List.mem_cons_self))
  exact ⟨cut', hcut', List.append_cancel_left (htext'.symm.trans htext), hmasked⟩

/-- No call begins in the opening of a subquery. -/
theorem Parted.select_begins {cut : Cut} (h : Parted name before cut) (hname : IsMasked name)
    (hselect : "(SELECT ".toList <+: cut.text) :
    "(SELECT ".toList <+: cut.masked := by
  obtain ⟨rest, hrest⟩ := hselect
  -- A call begins with a word character and after none, so only at the S of SELECT.
  have hplace : ∀ k < 8, ("(SELECT ".toList.drop k).head?.any isWord = true →
      ("(SELECT ".toList.take k).getLast?.any isWord = false → k = 1 := by decide
  obtain ⟨cut', -, -, hmasked⟩ := h.skip hrest.symm fun v w hsplit hw n hcall => by
    obtain ⟨head, hhead, hbegins, -⟩ := id hcall
    obtain ⟨d, hd, hword⟩ := hhead.head?_isWord hname.isWordName
    rw [head?_of_begins hbegins hhead.ne_nil] at hd
    have hdrop : "(SELECT ".toList.drop v.length = w := by rw [hsplit, List.drop_left]
    have htake : "(SELECT ".toList.take v.length = v := by rw [hsplit, List.take_left]
    have hlength := congrArg List.length hsplit
    have hpos := List.length_pos_iff.mpr hw
    rw [List.length_append] at hlength
    have hfirst : w.head? = some d := by rwa [List.head?_append_of_ne_nil _ hw] at hd
    have hlast : v.getLast?.any isWord = false := by
      have hedge := hcall.edge
      rw [hd, wordEdge, Option.any_some, hword] at hedge
      cases hv : v.getLast? with
      | none => rfl
      | some x => simpa [hv] using hedge
    have hone := hplace v.length (by rw [show "(SELECT ".toList.length = 8 from rfl] at hlength; omega)
      (by rw [hdrop, hfirst, Option.any_some, hword]) (by rw [htake, hlast])
    rw [hone] at hdrop
    have hleading := hhead.leadingWord hname.isWordName hbegins
    rw [← hdrop] at hleading
    exact Bool.noConfusion (hname.not_select.symm.trans hleading)
  exact ⟨_, hmasked.symm⟩

theorem Parted.masked_eq {before' : Option Char} {cut cut' : Cut} (h : Parted name before cut)
    (h' : Parted name before' cut') (hname : IsName name) (hbefore : before.any isWord = before'.any isWord)
    (htext : cut.text = cut'.text) : cut.masked = cut'.masked := by
  have hmask := h.mapCallsFrom_eq hname h.seamless_blanks hbefore.symm
  have hmask' := h'.mapCallsFrom_eq hname h'.seamless_blanks rfl
  rw [htext, hmask'] at hmask
  exact hmask.symm

/-- A call that goes through the white space is wide. -/
theorem IsCall.wide (hname : IsMasked name) (hframed : Framed before l) {k : Nat}
    (h : IsCall name before l.text (l.stop + k)) : 12 < l.stop + k := by
  rcases hframed with ⟨hwide, -⟩ | ⟨-, hselect⟩
  · rw [Layout.stop]
    omega
  · obtain ⟨head, hhead, hbegins, -⟩ := id h
    have hle := h.length_bounds.2
    have hlt := l.front_lt_stop
    have hfront : name.length ≤ l.front.length := by
      refine Nat.le_of_not_lt fun hshort => ?_
      obtain ⟨x, hx, hspace⟩ := Layout.getElem?_within (l := l) (Nat.le_refl _) hlt
      obtain ⟨d, hd, hsame⟩ := hhead.letter (List.getElem?_eq_getElem hshort)
      have hplace := List.prefix_iff_getElem?.mp hbegins _ (List.getElem?_eq_some_iff.mp hd).1
      rw [← List.getElem?_eq_getElem, hd] at hplace
      obtain rfl := Option.some.inj (hx.symm.trans hplace)
      have hword := hname.isWordName.word _ (List.getElem_mem hshort) x hsame
      exact Bool.noConfusion (hword.symm.trans (isWord_of_isBlank hspace))
    have hcall : IsCall name before (l.text.take (l.stop + k) ++ l.text.drop (l.stop + k))
        (l.text.take (l.stop + k)).length := by
      rwa [List.take_append_drop, List.length_take_of_le hle]
    have hlast := hcall.getLast?
    have hnine : 8 < k := by
      refine Nat.lt_of_not_le fun hshort => ?_
      have hne : l.gap ++ l.back.take k ≠ [] := fun hnil => l.ne_nil (List.append_eq_nil_iff.mp hnil).1
      rw [Layout.take_right, List.getLast?_append_of_ne_nil _ hne] at hlast
      rcases List.mem_append.mp (List.mem_of_getLast? hlast) with hmem | hmem
      · exact absurd (l.blank _ hmem) (by decide)
      · have hselect' : l.back.take k <+: "(SELECT ".toList := by
          refine List.prefix_of_prefix_length_le (List.take_prefix k _) hselect ?_
          rw [List.length_take]
          exact Nat.le_trans (Nat.min_le_left _ _) hshort
        exact absurd (hselect'.subset hmem) (by decide)
    have hfour := hname.four_le
    omega

/-- What follows such a call is a part of what follows the white space. -/
theorem IsCall.across (hname : IsMasked name) (hframed : Framed before l) {call rest : Text} {k : Nat}
    (h : IsCall name before (call ++ rest) call.length) (htext : call ++ rest = l.text)
    (hlength : call.length = l.stop + k) : rest = l.back.drop k ∧ 12 < call.length := by
  refine ⟨?_, ?_⟩
  · rw [← Layout.drop_right, ← htext, ← hlength, List.drop_left]
  · rw [htext, hlength] at h
    rw [hlength]
    exact h.wide hname hframed

theorem blanks_blank (n : Nat) : ∀ c ∈ blanks n, isBlank c = true := by
  intro c hc
  rw [List.eq_of_mem_replicate hc]
  decide

theorem isWord_after_gap {gap : Text} (hne : gap ≠ []) (hgap : ∀ c ∈ gap, isBlank c = true)
    (before : Option Char) : (gap.getLast?.or before).any isWord = false := by
  rw [List.getLast?_eq_some_getLast hne, Option.some_or, Option.any_some]
  exact isWord_of_isBlank (hgap _ (List.getLast_mem hne))

theorem Parted.arranged_gap (hname : IsMasked name) {cut cut' : Cut} (h : Parted name before cut)
    (h' : Parted name before cut') (hfront : l.front = []) (htext : cut.text = l.text)
    (htext' : cut'.text = l.text') (hframed : Framed before l) :
    ∃ m : Layout, cut.masked = m.text ∧ cut'.masked = m.text' ∧ Framed before m := by
  have hgap : l.text = l.gap ++ l.back := by rw [Layout.text, hfront, List.nil_append]
  have hgap' : l.text' = l.gap' ++ l.back := by
    show l.front ++ (l.gap' ++ l.back) = _
    rw [hfront, List.nil_append]
  obtain ⟨rest, hrest, hback, hmasked⟩ := h.skip_gap hname.isWordName l.blank (htext.trans hgap)
  obtain ⟨rest', hrest', hback', hmasked'⟩ := h'.skip_gap hname.isWordName l.blank' (htext'.trans hgap')
  have hsame : rest.masked = rest'.masked := by
    refine hrest.masked_eq hrest' hname.isWordName.isName ?_ (hback.trans hback'.symm)
    rw [isWord_after_gap l.ne_nil l.blank, isWord_after_gap l.ne_nil' l.blank']
  refine ⟨⟨[], l.gap, l.gap', rest.masked, l.ne_nil, l.ne_nil', l.blank, l.blank'⟩, hmasked,
    hsame ▸ hmasked', hframed.imp_right fun h => ⟨?_, ?_⟩⟩
  · have hlast := h.1
    rwa [hfront] at hlast
  · exact hrest.select_begins hname (hback.symm ▸ h.2)

/-- A call that goes through the white space leaves blanks in its place. -/
theorem Parted.arranged_across (hname : IsMasked name) {call call' : Text} {cut cut' : Cut} {k : Nat}
    (hcall : IsCall name before (call ++ cut.text) call.length)
    (hcall' : IsCall name before (call' ++ cut'.text) call'.length)
    (h : Parted name (call.getLast?.or before) cut) (h' : Parted name (call'.getLast?.or before) cut')
    (htext : call ++ cut.text = l.text) (htext' : call' ++ cut'.text = l.text')
    (hlength : call.length = l.stop + k) (hlength' : call'.length = l.swap.stop + k)
    (hframed : Framed before l) :
    ∃ m : Layout, (cut.take call).masked = m.text ∧ (cut'.take call').masked = m.text' ∧ Framed before m := by
  obtain ⟨hback, hwide⟩ := hcall.across hname hframed htext hlength
  obtain ⟨hback', hwide'⟩ := hcall'.across (l := l.swap) hname hframed.swap htext' hlength'
  have hsame : cut.masked = cut'.masked := by
    refine h.masked_eq h' hname.isWordName.isName ?_ (hback.trans hback'.symm)
    rw [hcall.getLast?, hcall'.getLast?]
  have hne : ∀ {n : Nat}, 12 < n → blanks n ≠ [] := by
    intro n hn
    rw [blanks, Ne, List.replicate_eq_nil_iff]
    omega
  refine ⟨⟨[], blanks call.length, blanks call'.length, cut.masked, hne hwide, hne hwide', blanks_blank _,
    blanks_blank _⟩, Cut.masked_take .., ?_, .inl ?_⟩
  · rw [Cut.masked_take, ← hsame]
    rfl
  · simp only [blanks, List.length_replicate]
    exact ⟨hwide, hwide'⟩

theorem arranged_prepend (u : Text) {t t' : Text}
    (h : ∃ m : Layout, t = m.text ∧ t' = m.text' ∧ Framed (u.getLast?.or before) m) :
    ∃ m : Layout, u ++ t = m.text ∧ u ++ t' = m.text' ∧ Framed before m := by
  obtain ⟨m, rfl, rfl, hm⟩ := h
  exact ⟨m.withFront (u ++ m.front), (List.append_assoc ..).symm, (List.append_assoc ..).symm,
    framed_withFront_append.mpr hm⟩

/-- What ends before the white space begins both texts alike. -/
theorem append_inj_front {call call' rest rest' : Text} (htext : call ++ rest = l.text)
    (htext' : call' ++ rest' = l.text') (hlength : call.length = call'.length)
    (hle : call.length ≤ l.front.length) : call = call' ∧ ∃ u, call ++ u = l.front ∧
      rest = (l.withFront u).text ∧ rest' = (l.withFront u).text' := by
  have hcall : call <+: l.front :=
    List.prefix_of_prefix_length_le ⟨_, htext⟩ (List.prefix_append _ _) hle
  have hcall' : call' <+: l.front :=
    List.prefix_of_prefix_length_le ⟨_, htext'⟩ (List.prefix_append _ _) (hlength ▸ hle)
  obtain rfl : call = call' :=
    (List.prefix_of_prefix_length_le hcall hcall' (Nat.le_of_eq hlength)).eq_of_length hlength
  obtain ⟨u, hu⟩ := hcall
  exact ⟨rfl, u, hu, List.append_cancel_left (htext.trans (l.text_withFront hu.symm)),
    List.append_cancel_left (htext'.trans (l.swap.text_withFront hu.symm))⟩

/-- Two texts that differ in white space are masked alike, by induction on the calls of the first. -/
theorem Parted.arranged (hname : IsMasked name) {cut cut' : Cut} (h : Parted name before cut)
    (h' : Parted name before cut') (htext : cut.text = l.text) (htext' : cut'.text = l.text')
    (hframed : Framed before l) :
    ∃ m : Layout, cut.masked = m.text ∧ cut'.masked = m.text' ∧ Framed before m := by
  induction h generalizing l cut' with
  | nil => exact absurd (List.append_eq_nil_iff.mp (List.append_eq_nil_iff.mp htext.symm).2).1 l.ne_nil
  | @keep before c cut hfree others ih =>
    cases hfront : l.front with
    | nil => exact arranged_gap hname (.keep hfree others) h' hfront htext htext' hframed
    | cons d u =>
      have hsplit : l.text = d :: (l.withFront u).text := l.text_withFront (v := [d]) hfront
      have hsplit' : l.text' = d :: (l.withFront u).text' := l.swap.text_withFront (v := [d]) hfront
      rw [Cut.text_keep, hsplit] at htext
      obtain ⟨rfl, hothers⟩ := List.cons.inj htext
      cases h' with
      | nil => exact absurd (hsplit'.symm.trans htext'.symm) (List.cons_ne_nil _ _)
      | @keep _ e cut' hfree' others' =>
        rw [Cut.text_keep, hsplit'] at htext'
        obtain ⟨rfl, hothers'⟩ := List.cons.inj htext'
        have hlater := ih others' hothers hothers' (hframed.drop (u := [e]) hfront)
        rw [Cut.masked_keep, Cut.masked_keep]
        exact arranged_prepend [e] hlater
      | call hcall' _ =>
        rw [Cut.text_take] at htext'
        rw [htext'] at hcall'
        obtain ⟨n, -, hcall⟩ := IsCall.opposite (l := l.swap) hname.isWordName hcall'
        refine absurd ?_ (hfree n)
        rw [hothers, ← hsplit]
        exact hcall
  | @call before call cut hcall others ih =>
    rw [Cut.text_take] at htext
    obtain ⟨n', hn, hcallThere⟩ := (htext ▸ hcall).opposite hname.isWordName
    cases h' with
    | nil =>
      have hbounds := hcallThere.length_bounds
      rw [← htext', Cut.text_nil, List.length_nil] at hbounds
      omega
    | @keep _ c cut' hfree' _ =>
      rw [Cut.text_keep] at htext'
      exact absurd (htext' ▸ hcallThere) (hfree' n')
    | @call _ call' cut' hcall' others' =>
      rw [Cut.text_take] at htext'
      obtain rfl := hcallThere.unique (htext' ▸ hcall')
      generalize hlength : call.length = n at hn
      generalize hlength' : call'.length = n' at hn
      cases hn with
      | left hle =>
        obtain ⟨rfl, u, hu, hothers, hothers'⟩ :=
          append_inj_front htext htext' (hlength.trans hlength'.symm) (hlength ▸ hle)
        obtain ⟨m, hmasked, hmasked', hm⟩ := ih others' hothers hothers' (hframed.drop hu.symm)
        rw [hcall.getLast?] at hm
        rw [Cut.masked_take, Cut.masked_take]
        exact arranged_prepend (blanks call.length) ⟨m, hmasked, hmasked', hm.of_before (by decide)⟩
      | right k =>
        exact arranged_across hname hcall hcall' others others' htext htext' hlength hlength' hframed

/-- Two texts with the white space in question. -/
def Arranged (t t' : Text) : Prop := ∃ l : Layout, t = l.text ∧ t' = l.text' ∧ Framed none l

theorem maskCalls_arranged {names : List Text} (hnames : ∀ name ∈ names, IsMasked name) {t t' : Text}
    (h : Arranged t t') : Arranged (maskCalls names t) (maskCalls names t') := by
  induction names generalizing t t' with
  | nil => exact h
  | cons name names ih =>
    obtain ⟨hname, hothers⟩ := List.forall_mem_cons.mp hnames
    obtain ⟨l, rfl, rfl, hframed⟩ := h
    obtain ⟨cut, htext, hcut⟩ := exists_parted name none l.text
    obtain ⟨cut', htext', hcut'⟩ := exists_parted name none l.text'
    have hmask : maskCall name l.text = cut.masked :=
      htext ▸ hcut.mapCallsFrom_eq hname.isWordName.isName hcut.seamless_blanks rfl
    have hmask' : maskCall name l.text' = cut'.masked :=
      htext' ▸ hcut'.mapCallsFrom_eq hname.isWordName.isName hcut'.seamless_blanks rfl
    refine ih hothers ?_
    show Arranged (maskCall name l.text) (maskCall name l.text')
    rw [hmask, hmask']
    exact hcut.arranged hname hcut' htext htext' hframed

end QueryLint.Sql
