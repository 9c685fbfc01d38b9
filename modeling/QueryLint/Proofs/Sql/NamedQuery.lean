import QueryLint.Proofs.Sql.BlockHead

/-! Named queries of a text and how they lie to each other. Each block is what stands between a
parenthesis and the one that closes it, and the blocks of a clause follow one another after commas. No
block is listed twice, since the parenthesis that closes a block and the place where its head begins lead
back to one clause; in a text without quotes the blocks of all clauses are nested or apart. Main
statements: `start_nodup` and `withClauses_wellFormed`. -/
namespace QueryLint.Sql
set_option autoImplicit false
open Text Shape

/-! ## Groups within groups -/

theorem closingParen?_inside {front u v rest : Text} (hquotes : QuoteFree (u ++ '(' :: v))
    (hbody : Items (u ++ '(' :: v)) {stop : Nat}
    (h : closingParen? (front ++ '(' :: (v ++ ')' :: rest)) front.length = some stop) :
    stop ≤ front.length + 1 + v.length := by
  have hbalanced := hbody.balanced hquotes
  have hu : 0 ≤ level u := hbalanced.level_left_nonneg
  have hlevel := hbalanced.level
  rw [level_append, level_cons, level_open] at hlevel
  obtain ⟨stop', hstop', hle⟩ := exists_closing (hquotes.of_subset fun c hc => by simp [hc])
    (show (0 : Int) < 1 by decide) (show 1 + level v ≤ 0 by omega) (front.length + 1) (')' :: rest)
  rw [closingParen?_front, hstop'] at h
  exact Option.some.inj h ▸ hle

/-- Of two groups the second begins after the first, or it ends within it. -/
theorem closingParen?_nested {t : Text} (hquotes : QuoteFree t) {i j k l : Nat}
    (hi : t[i]? = some '(') (hj : t[j]? = some '(') (hk : closingParen? t i = some k)
    (hl : closingParen? t j = some l) (hij : i < j) : k ≤ j ∨ l < k := by
  obtain ⟨group, ⟨body, hbody, rfl⟩, ⟨rest, hrest⟩, rfl⟩ := group_of_closingParen? hi hk
  have hlt : i < t.length := (List.getElem?_eq_some_iff.mp hi).1
  have hsplit : t = t.take i ++ '(' :: (body ++ ')' :: rest) := by
    have hall := List.take_append_drop i t
    rw [← hrest] at hall
    simpa using hall.symm
  have hfront : (t.take i).length = i := List.length_take_of_le (Nat.le_of_lt hlt)
  generalize t.take i = front at *
  subst hsplit hfront
  have hquotes : QuoteFree body := hquotes.of_subset fun c hc => by simp [hc]
  obtain ⟨n, rfl⟩ := Nat.exists_eq_add_of_lt hij
  have hat : (body ++ ')' :: rest)[n]? = some '(' := by
    rw [Nat.add_assoc, List.getElem?_append_right (Nat.le_add_right _ _), Nat.add_sub_cancel_left] at hj
    exact hj
  simp only [List.length_cons, List.length_append, List.length_nil]
  -- The second parenthesis stands in the body, in place of the closing one, or after it.
  rcases Nat.lt_trichotomy n body.length with hn | rfl | hn
  · rw [List.getElem?_append_left hn] at hat
    obtain ⟨u, v, rfl, rfl⟩ : ∃ u v, body = u ++ '(' :: v ∧ n = u.length := by
      refine ⟨body.take n, body.drop (n + 1), ?_, (List.length_take_of_le (Nat.le_of_lt hn)).symm⟩
      rw [← (List.getElem?_eq_some_iff.mp hat).2, ← List.drop_eq_getElem_cons hn,
        List.take_append_drop]
    have hinside : closingParen? ((front ++ '(' :: u) ++ '(' :: (v ++ ')' :: rest))
        (front ++ '(' :: u).length = some l := by
      rw [List.length_append, List.length_cons, ← Nat.add_assoc, ← hl]
      simp
    have hle := closingParen?_inside hquotes hbody hinside
    simp only [List.length_append, List.length_cons] at hle ⊢
    omega
  · rw [List.getElem?_append_right (Nat.le_refl _), Nat.sub_self] at hat
    exact absurd (Option.some.inj hat) (by decide)
  · omega

/-! ## Blocks -/

/-- A block is what stands between a parenthesis and the one that closes it. -/
structure NamedQuery.Enclosed (sql : Text) (b : NamedQuery) : Prop where
  body_eq : sql.slice b.span = b.body
  start_pos : 0 < b.span.start
  opened : sql[b.span.start - 1]? = some '('
  closed : closingParen? sql (b.span.start - 1) = some (b.span.stop + 1)

/-- One block comes after another: after the closing parenthesis there is white space and a comma, and
then the head of the block. -/
def NamedQuery.Follows (sql : Text) (a b : NamedQuery) : Prop :=
  ∃ (gap : Gap) (head : BlockHead),
    sql.slice ⟨a.span.stop + 1, b.span.start⟩ = gap.text ++ ',' :: head.text ∧
      b.name = lower head.name.named

/-- One block is listed at another place than the other, and lies apart from it or inside. -/
def NamedQuery.NestedOrApart (a b : NamedQuery) : Prop :=
  a.span ≠ b.span ∧
    (a.span.stop < b.span.start ∨ b.span.stop < a.span.start ∨
      (a.span.start < b.span.start ∧ b.span.stop < a.span.stop) ∨
      (b.span.start < a.span.start ∧ a.span.stop < b.span.stop))

namespace NamedQuery.Enclosed

variable {sql : Text} {a b : NamedQuery}

theorem close (h : b.Enclosed sql) : b.span.start ≤ b.span.stop ∧ sql[b.span.stop]? = some ')' := by
  obtain ⟨group, ⟨body, -, rfl⟩, ⟨rest, hrest⟩, hstop⟩ := group_of_closingParen? h.opened h.closed
  have hpos := h.start_pos
  simp only [List.length_cons, List.length_append, List.length_nil] at hstop
  refine ⟨by omega, ?_⟩
  have hat : (sql.drop (b.span.start - 1))[body.length + 1]? = some ')' := by
    rw [← hrest]
    simp
  rw [List.getElem?_drop] at hat
  rw [← hat]
  congr 1
  omega

theorem after_or_inside (ha : a.Enclosed sql) (hb : b.Enclosed sql) (hquotes : QuoteFree sql)
    (hlt : a.span.start < b.span.start) :
    a.span.stop < b.span.start ∨ b.span.stop < a.span.stop := by
  have hpos := ha.start_pos
  have hnested := closingParen?_nested hquotes ha.opened hb.opened ha.closed hb.closed (by omega)
  omega

theorem nestedOrApart (ha : a.Enclosed sql) (hb : b.Enclosed sql) (hquotes : QuoteFree sql)
    (hne : a.span.start ≠ b.span.start) : NestedOrApart a b := by
  refine ⟨fun heq => hne (congrArg Span.start heq), ?_⟩
  rcases Nat.lt_or_gt_of_ne hne with hlt | hlt
  · have hplace := ha.after_or_inside hb hquotes hlt
    omega
  · have hplace := hb.after_or_inside ha hquotes hlt
    omega

theorem start_eq (ha : a.Enclosed sql) (hb : b.Enclosed sql) (hstop : a.span.stop = b.span.stop) :
    a.span.start = b.span.start := by
  have hopens := eq_of_closingParen? ha.opened hb.opened ha.closed (hstop ▸ hb.closed)
  have hpos := ha.start_pos
  have hpos' := hb.start_pos
  omega

end NamedQuery.Enclosed

/-! ## Places of heads -/

def AfterComma (sql : Text) (position : Nat) : Prop := (sql.take position).getLast? = some ','

def AfterWord (sql : Text) (position : Nat) : Prop :=
  ∃ c, (sql.take position).getLast? = some c ∧ isWord c = true ∧ WordEnds (sql.drop position)

/-- A head leads from a place to the body of a block. -/
structure HeadAt (sql : Text) (position : Nat) (b : NamedQuery) (head : BlockHead) : Prop where
  begins : head.text <+: sql.drop position
  stop_eq : b.span.start = position + head.text.length
  name_eq : b.name = lower head.name.named

/-- Of two stretches that end at one place the later one ends the other. -/
theorem append_of_begins {t v w : Text} {p n : Nat} (hv : v <+: t.drop p) (hw : w <+: t.drop (p + n))
    (hlength : v.length = n + w.length) :
    ∃ u, v = u ++ w ∧ u.length = n ∧ t.take (p + n) = t.take p ++ u := by
  have hle := hv.length_le
  have hu : ((t.drop p).take n).length = n := List.length_take_of_le (by omega)
  have hdrop : t.drop p = (t.drop p).take n ++ t.drop (p + n) := by
    rw [← List.drop_drop, List.take_append_drop]
  obtain ⟨w', hw'⟩ := List.prefix_of_prefix_length_le (List.take_prefix n _) hv (by omega)
  have hrest : w' <+: t.drop (p + n) := by
    rwa [← hw', hdrop, List.take_append_of_le_length (by omega), List.take_of_length_le (by omega),
      List.prefix_append_right_inj] at hv
  have hlengths := congrArg List.length hw'
  rw [List.length_append] at hlengths
  obtain rfl : w' = w :=
    (List.prefix_of_prefix_length_le hrest hw (by omega)).eq_of_length (by omega)
  exact ⟨_, hw'.symm, hu, List.take_add⟩

/-- Of two heads that end at one place, the one that begins later begins neither after a comma nor at
the end of a word. -/
theorem HeadAt.not_lt {sql : Text} {p p' : Nat} {b b' : NamedQuery}
    {head head' : BlockHead} (h : HeadAt sql p b head) (h' : HeadAt sql p' b' head')
    (hstart : b.span.start = b'.span.start) (hp' : AfterComma sql p' ∨ AfterWord sql p') :
    ¬p < p' := by
  intro hlt
  obtain ⟨n, rfl⟩ := Nat.exists_eq_add_of_le (Nat.le_of_lt hlt)
  have hstop := h.stop_eq
  have hstop' := h'.stop_eq
  obtain ⟨u, hsplit, hlength, htake⟩ := append_of_begins h.begins h'.begins (by omega)
  have hu : u ≠ [] := List.length_pos_iff.mp (by omega)
  -- The later head ends the earlier one, and what stands before it is the comma or the word.
  refine BlockHead.not_suffix hu (fun c hc => ?_) hsplit
  have hlast : (sql.take (p + n)).getLast? = some c := by
    rw [htake, List.getLast?_append_of_ne_nil _ hu]
    exact hc
  rcases hp' with hcomma | ⟨d, hd, hword, hends⟩
  · exact .inl (Option.some.inj (hlast.symm.trans hcomma))
  · obtain rfl := Option.some.inj (hlast.symm.trans hd)
    refine .inr ⟨hword, ?_⟩
    rwa [WordEnds, head?_of_begins h'.begins head'.text_ne_nil]

theorem HeadAt.unique {sql : Text} {p p' : Nat} {b b' : NamedQuery}
    {head head' : BlockHead} (h : HeadAt sql p b head) (h' : HeadAt sql p' b' head')
    (hstart : b.span.start = b'.span.start) (hp : AfterComma sql p ∨ AfterWord sql p)
    (hp' : AfterComma sql p' ∨ AfterWord sql p') : p = p' :=
  Nat.le_antisymm (Nat.le_of_not_lt (h'.not_lt h hstart.symm hp)) (Nat.le_of_not_lt (h.not_lt h' hstart hp'))

theorem AfterComma.not_afterWord {sql : Text} {position : Nat} (h : AfterComma sql position) :
    ¬AfterWord sql position := by
  rintro ⟨c, hc, hword, -⟩
  obtain rfl := Option.some.inj (h.symm.trans hc)
  exact absurd hword (by decide)

/-! ## Lists of blocks -/

def CommaAt (sql : Text) (start stop : Nat) : Prop :=
  ∃ gap : Gap, gap.text ++ [','] <+: sql.drop start ∧ stop = start + (gap.text ++ [',']).length

structure BlockAt (sql : Text) (position : Nat) (b : NamedQuery) : Prop where
  enclosed : b.Enclosed sql
  head : ∃ head, HeadAt sql position b head

/-- Blocks that follow one another from a place on. -/
inductive BlocksFrom (sql : Text) : Nat → List NamedQuery → Prop
  | last {position : Nat} {b : NamedQuery} (h : BlockAt sql position b) : BlocksFrom sql position [b]
  | more {position next : Nat} {b : NamedQuery} {rest : List NamedQuery}
      (h : BlockAt sql position b) (hcomma : CommaAt sql (b.span.stop + 1) next)
      (others : BlocksFrom sql next rest) : BlocksFrom sql position (b :: rest)

theorem blockAt_of_namedQueryAt? {sql : Text} {position : Nat} (hposition : position ≤ sql.length)
    {b : NamedQuery} (h : namedQueryAt? sql position = some b) : BlockAt sql position b := by
  unfold namedQueryAt? at h
  split at h
  · exact absurd h (by simp)
  · rename_i m hm
    split at h
    · exact absurd h (by simp)
    · rename_i stop hstop
      obtain rfl := Option.some.inj h
      obtain ⟨head, hbegins, hm, hname⟩ := exists_head_of_matchAt? hposition hm
      have hpos := List.length_pos_iff.mpr head.text_ne_nil
      have hbounds := closingParen?_bounds hstop
      have hopened : sql[m.span.stop - 1]? = some '(' := by
        obtain ⟨init, htext⟩ := head.exists_init
        obtain ⟨rest, hrest⟩ := htext ▸ hbegins
        have hat : (sql.drop position)[init.length]? = some '(' := by
          rw [← hrest]
          simp
        rw [List.getElem?_drop] at hat
        rw [hm, htext, List.length_append, ← hat]
        rfl
      have hstop : stop - 1 + 1 = stop := by omega
      refine ⟨⟨rfl, by show 0 < m.span.stop; omega, hopened, ?_⟩, head, hbegins, hm, ?_⟩
      · simp only [hstop]
        assumption
      · rw [hname, head.name.plainIdentifier_text]

theorem commaAt_of_matchAt? {sql : Text} {position : Nat} (hposition : position ≤ sql.length)
    {m : Match} (h : listComma.matchAt? (Cursor.seek sql position) = some m) :
    CommaAt sql position m.span.stop := by
  rw [Cursor.seek_eq hposition] at h
  obtain ⟨q, hq, rfl⟩ := Pattern.exists_end_of_matchAt? h
  obtain ⟨r, hgap, hcomma⟩ := mem_ends_seq.mp hq
  obtain ⟨gap, hgap, hr⟩ := exists_gap hgap
  obtain ⟨hcomma, hq⟩ := sign_taken (by decide) (by decide) hcomma
  obtain ⟨hbegins, rfl⟩ := Progress.past_append hgap hr hcomma hq
  exact ⟨gap, hbegins, rfl⟩

theorem blocksFrom_namedQueriesFrom {sql : Text} {position : Nat} (hposition : position ≤ sql.length)
    (h : namedQueriesFrom sql position ≠ []) :
    BlocksFrom sql position (namedQueriesFrom sql position) := by
  fun_induction namedQueriesFrom sql position with
  | case1 => exact absurd rfl h
  | case2 position first hfirst _ => exact .last (blockAt_of_namedQueryAt? hposition hfirst)
  | case3 position first hfirst comma hcomma hbounds ih =>
    have hblock := blockAt_of_namedQueryAt? hposition hfirst
    by_cases hrest : namedQueriesFrom sql comma.span.stop = []
    · rw [hrest]
      exact .last hblock
    · have hclosed := (closingParen?_bounds hblock.enclosed.closed).2
      exact .more hblock (commaAt_of_matchAt? hclosed hcomma) (ih hbounds.2 hrest)
  | case4 position first hfirst _ _ _ => exact .last (blockAt_of_namedQueryAt? hposition hfirst)

namespace BlocksFrom

variable {sql : Text} {position : Nat} {blocks : List NamedQuery}

theorem enclosed (h : BlocksFrom sql position blocks) : ∀ b ∈ blocks, b.Enclosed sql := by
  induction h with
  | last h => exact fun b hb => List.mem_singleton.mp hb ▸ h.enclosed
  | more h _ _ ih => exact List.forall_mem_cons.mpr ⟨h.enclosed, ih⟩

theorem lt_start (h : BlocksFrom sql position blocks) : ∀ b ∈ blocks, position < b.span.start := by
  have hfirst : ∀ {position : Nat} {b : NamedQuery}, BlockAt sql position b →
      position < b.span.start := by
    rintro position b ⟨-, head, hhead⟩
    have hpos := List.length_pos_iff.mpr head.text_ne_nil
    have hstop := hhead.stop_eq
    omega
  induction h with
  | last h => exact fun b hb => List.mem_singleton.mp hb ▸ hfirst h
  | @more position next b rest h hcomma _ ih =>
    refine List.forall_mem_cons.mpr ⟨hfirst h, fun c hc => ?_⟩
    obtain ⟨gap, -, hnext⟩ := hcomma
    have hlt := hfirst h
    have hle := h.enclosed.close.1
    have hlater := ih c hc
    omega

theorem pairwise (h : BlocksFrom sql position blocks) :
    blocks.Pairwise fun a b => a.span.stop < b.span.start := by
  induction h with
  | last h => exact List.pairwise_singleton _ _
  | @more position next b rest h hcomma others ih =>
    refine List.pairwise_cons.mpr ⟨fun c hc => ?_, ih⟩
    obtain ⟨gap, -, hnext⟩ := hcomma
    have hlater := others.lt_start c hc
    omega

theorem isChain (h : BlocksFrom sql position blocks) : blocks.IsChain (NamedQuery.Follows sql) := by
  induction h with
  | last h => exact List.isChain_singleton _
  | @more position next b rest h hcomma others ih =>
    have hfollows : ∀ {c}, BlockAt sql next c → NamedQuery.Follows sql b c := by
      rintro c ⟨-, head, hhead⟩
      obtain ⟨gap, hgap, hnext⟩ := hcomma
      refine ⟨gap, head, ?_, hhead.name_eq⟩
      have hbegins := hhead.begins
      rw [hnext, ← List.drop_drop, prefix_drop_iff hgap] at hbegins
      have hslice := Text.slice_of_begins hbegins
      rw [List.length_append, ← Nat.add_assoc, ← hnext, ← hhead.stop_eq] at hslice
      rw [hslice, List.append_assoc]
      rfl
    cases others with
    | last h' => exact List.isChain_pair.mpr (hfollows h')
    | more h' _ _ => exact List.isChain_cons_cons.mpr ⟨hfollows h', ih⟩

end BlocksFrom

/-! ## Where a block is listed -/

/-- A block is reached from a place by going over others. -/
inductive Reached (sql : Text) (start : Nat) : Nat → NamedQuery → Prop
  | first {b : NamedQuery} (h : BlockAt sql start b) : Reached sql start start b
  | next {position next : Nat} {a b : NamedQuery} (before : Reached sql start position a)
      (hcomma : CommaAt sql (a.span.stop + 1) next) (h : BlockAt sql next b) : Reached sql start next b

theorem Reached.blockAt {sql : Text} {start position : Nat} {b : NamedQuery}
    (h : Reached sql start position b) : BlockAt sql position b := by
  cases h with
  | first h => exact h
  | next _ _ h => exact h

theorem BlocksFrom.exists_reached {sql : Text} {position : Nat} {blocks : List NamedQuery}
    (h : BlocksFrom sql position blocks) {start : Nat}
    (hstart : ∀ b, BlockAt sql position b → Reached sql start position b) :
    ∀ b ∈ blocks, ∃ place, Reached sql start place b := by
  induction h with
  | last h => exact fun b hb => List.mem_singleton.mp hb ▸ ⟨_, hstart _ h⟩
  | more h hcomma _ ih =>
    exact List.forall_mem_cons.mpr
      ⟨⟨_, hstart _ h⟩, ih fun c hc => .next (hstart _ h) hcomma hc⟩

theorem CommaAt.afterComma {sql : Text} {start stop : Nat} (h : CommaAt sql start stop) :
    AfterComma sql stop := by
  obtain ⟨gap, ⟨rest, hrest⟩, rfl⟩ := h
  unfold AfterComma
  rw [List.take_add, List.getLast?_append, ← hrest, List.take_left]
  simp

theorem CommaAt.unique {sql : Text} {a b : NamedQuery} (ha : a.Enclosed sql) (hb : b.Enclosed sql)
    {stop : Nat} (h : CommaAt sql (a.span.stop + 1) stop) (h' : CommaAt sql (b.span.stop + 1) stop) :
    a.span.stop = b.span.stop := by
  have hnot : ∀ {a b : NamedQuery}, b.Enclosed sql → CommaAt sql (a.span.stop + 1) stop →
      CommaAt sql (b.span.stop + 1) stop → ¬a.span.stop < b.span.stop := by
    rintro a b hb ⟨gap, ⟨rest, hrest⟩, hstop⟩ ⟨gap', -, hstop'⟩ hlt
    obtain ⟨n, hn⟩ := Nat.exists_eq_add_of_lt hlt
    rw [List.length_append, List.length_singleton] at hstop hstop'
    have hclose : (sql.drop (a.span.stop + 1))[n]? = some ')' := by
      rw [List.getElem?_drop, ← hb.close.2, hn]
      congr 1
      omega
    rw [← hrest, List.append_assoc, List.getElem?_append_left (by omega)] at hclose
    exact absurd (gap.blank _ (List.mem_of_getElem? hclose)) (by decide)
  exact Nat.le_antisymm (Nat.le_of_not_lt (hnot ha h' h)) (Nat.le_of_not_lt (hnot hb h h'))

/-- A block is reached from the end of one word only. -/
theorem Reached.unique {sql : Text} {start start' : Nat}
    (hw : AfterWord sql start) (hw' : AfterWord sql start') {p p' : Nat} {b b' : NamedQuery}
    (h : Reached sql start p b) (h' : Reached sql start' p' b')
    (hspan : b.span.start = b'.span.start) : start = start' := by
  -- A first head stands after a word and every other one after a comma, so both are first or neither.
  induction h generalizing p' b' with
  | first h =>
    obtain ⟨-, head, hhead⟩ := h
    obtain ⟨-, head', hhead'⟩ := h'.blockAt
    cases h' with
    | first _ => exact hhead.unique hhead' hspan (.inr hw) (.inr hw')
    | next _ hcomma _ =>
      have hplace := hhead.unique hhead' hspan (.inr hw) (.inl hcomma.afterComma)
      exact absurd (hplace ▸ hw) hcomma.afterComma.not_afterWord
  | next before hcomma h ih =>
    obtain ⟨-, head, hhead⟩ := h
    obtain ⟨-, head', hhead'⟩ := h'.blockAt
    cases h' with
    | first _ =>
      have hplace := hhead.unique hhead' hspan (.inl hcomma.afterComma) (.inr hw')
      exact absurd (hplace ▸ hw') hcomma.afterComma.not_afterWord
    | next before' hcomma' _ =>
      -- Both heads follow the same comma, so the blocks before them end at the same parenthesis.
      have hplace := hhead.unique hhead' hspan (.inl hcomma.afterComma)
        (.inl hcomma'.afterComma)
      subst hplace
      have ha := before.blockAt.enclosed
      have ha' := before'.blockAt.enclosed
      exact ih before' (ha.start_eq ha' (hcomma.unique ha ha' hcomma'))

/-! ## Clauses -/

theorem word_passed {w : Text} (hw : IsWordName w) {p : Progress}
    (h : sameLetters w (leadingWord p.cursor.rest) = true) :
    (∃ c ∈ (p.past (leadingWord p.cursor.rest)).cursor.before, isWord c = true) ∧
      WordEnds (p.past (leadingWord p.cursor.rest)).cursor.rest := by
  refine ⟨?_, wordEnds_drop_leadingWord _⟩
  have hlast := List.getLast?_eq_some_getLast (hw.ne_nil_of_sameLetters h)
  refine ⟨_, ?_, hw.isWord_of_sameLetters h _ (List.mem_of_getLast? hlast)⟩
  rw [Progress.past_cursor, Cursor.past_before, hlast]
  rfl

theorem afterWord_of_mem_all {sql : Text} {m : Match} (h : m ∈ withKeyword.all sql) :
    AfterWord sql m.span.stop := by
  have hwith := isWordName "with"
  have hrecursive := isWordName "recursive"
  obtain ⟨c, hc, hm⟩ := Pattern.of_mem_all h
  obtain ⟨q, hq, rfl⟩ := Pattern.exists_end_of_matchAt? hm
  obtain ⟨hin, -⟩ := ends_forward (p := ⟨c, []⟩) hc hq
  have hpassed : (∃ d ∈ q.cursor.before, isWord d = true) ∧ WordEnds q.cursor.rest := by
    obtain ⟨r, hr, hq⟩ := mem_ends_seq.mp hq
    obtain ⟨-, hsame, rfl⟩ := (mem_ends_keyword hwith).mp hr
    rcases mem_ends_either.mp hq with hq | hq
    · obtain ⟨r', hword, hedge⟩ := mem_ends_seq.mp hq
      obtain ⟨r'', -, hword⟩ := mem_ends_seq.mp hword
      obtain ⟨hsame, rfl⟩ := (mem_ends_word hrecursive).mp (mem_ends_seq.mpr ⟨r', hword, hedge⟩)
      exact word_passed hrecursive hsame
    · obtain rfl := List.mem_singleton.mp hq
      exact word_passed hwith hsame
  obtain ⟨⟨d, hd, hword⟩, hends⟩ := hpassed
  exact ⟨d, hin.before_eq ▸ hd, hword, hin.rest_eq ▸ hends⟩

theorem blocksFrom_of_mem {sql : Text} {m : Match} (hm : m ∈ withKeyword.all sql) {b : NamedQuery}
    (hb : b ∈ namedQueriesFrom sql m.span.stop) :
    BlocksFrom sql m.span.stop (namedQueriesFrom sql m.span.stop) :=
  blocksFrom_namedQueriesFrom (Pattern.of_mem_all hm).stop_le_length (List.ne_nil_of_mem hb)

theorem blocksFrom_of_mem_withClauses {sql : Text} {group : List NamedQuery}
    (h : group ∈ withClauses sql) : ∃ position, BlocksFrom sql position group := by
  obtain ⟨hmem, hne⟩ := List.mem_filter.mp h
  obtain ⟨m, hm, rfl⟩ := List.mem_map.mp hmem
  refine ⟨m.span.stop, blocksFrom_namedQueriesFrom (Pattern.of_mem_all hm).stop_le_length ?_⟩
  simpa using hne

theorem exists_blockAt_of_mem {sql : Text} {b : NamedQuery} (h : b ∈ namedQueries sql) :
    ∃ place, BlockAt sql place b := by
  obtain ⟨group, hgroup, hb⟩ := List.mem_flatten.mp h
  obtain ⟨position, hblocks⟩ := blocksFrom_of_mem_withClauses hgroup
  obtain ⟨place, hreached⟩ := hblocks.exists_reached (fun _ => .first) b hb
  exact ⟨place, hreached.blockAt⟩

/-- No two blocks of any clauses begin at one place. -/
theorem start_nodup (sql : Text) : ((namedQueries sql).map fun b => b.span.start).Nodup := by
  refine List.pairwise_map.mpr (List.pairwise_flatten.mpr ⟨fun group hgroup => ?_, ?_⟩)
  · obtain ⟨position, hblocks⟩ := blocksFrom_of_mem_withClauses hgroup
    refine hblocks.pairwise.imp_of_mem fun {a b} ha _ hlt => ?_
    have hle := (hblocks.enclosed a ha).close.1
    omega
  · refine List.Pairwise.filter _ (List.pairwise_map.mpr ?_)
    have hstops := withKeyword.all_stops_pairwise (by decide) sql
    refine hstops.imp_of_mem fun {m n} hm hn hlt a ha b hb hstart => ?_
    obtain ⟨p, hreached⟩ := (blocksFrom_of_mem hm ha).exists_reached (fun _ => .first) a ha
    obtain ⟨p', hreached'⟩ := (blocksFrom_of_mem hn hb).exists_reached (fun _ => .first) b hb
    have hsame := hreached.unique (afterWord_of_mem_all hm) (afterWord_of_mem_all hn) hreached' hstart
    omega

/-- Each block is what stands between its parentheses, and the blocks of a clause are in order, each
after a comma. In a text without quotes no block of any clause is listed twice, and any two are nested
or apart. -/
theorem withClauses_wellFormed (sql : Text) :
    (∀ group ∈ withClauses sql, (∀ b ∈ group, b.Enclosed sql) ∧
      group.Pairwise (fun a b => a.span.stop < b.span.start) ∧
      group.IsChain (NamedQuery.Follows sql)) ∧
    (QuoteFree sql → (namedQueries sql).Pairwise NamedQuery.NestedOrApart) := by
  refine ⟨fun group hgroup => ?_, fun hquotes => ?_⟩
  · obtain ⟨position, hblocks⟩ := blocksFrom_of_mem_withClauses hgroup
    exact ⟨hblocks.enclosed, hblocks.pairwise, hblocks.isChain⟩
  · refine (List.pairwise_map.mp (start_nodup sql)).imp_of_mem fun {a b} ha hb hne => ?_
    obtain ⟨p, ha⟩ := exists_blockAt_of_mem ha
    obtain ⟨p', hb⟩ := exists_blockAt_of_mem hb
    exact ha.enclosed.nestedOrApart hb.enclosed hquotes hne

/-- Two clauses, one in a block of the other. -/
def nestedWith : Text :=
  "WITH a AS (WITH b AS (SELECT 1) SELECT b), c (x) AS (SELECT 2) SELECT 3".toList

theorem nestedWith_wellFormed : QuoteFree nestedWith ∧
    (namedQueries nestedWith).map NamedQuery.span = [⟨11, 40⟩, ⟨53, 61⟩, ⟨22, 30⟩] ∧
    (namedQueries nestedWith).Pairwise NamedQuery.NestedOrApart := by
  have hquotes : QuoteFree nestedWith := by decide +kernel
  exact ⟨hquotes, by decide +kernel, (withClauses_wellFormed nestedWith).2 hquotes⟩

end QueryLint.Sql
