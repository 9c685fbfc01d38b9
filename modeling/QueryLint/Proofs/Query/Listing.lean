import Mathlib.Data.List.Nodup
import Mathlib.Data.Sum.Basic

/-! Lists that hold the values of a partial function, one for each key. This says that a walk comes by
every place just once, whatever it passes on the way. Main statement: `Lists.paths`, the values at the
paths from a root are the one at the root and those at the paths from its children. -/
namespace QueryLint
set_option autoImplicit false

variable {α β κ ι : Type}

/-- A list holds the values of a partial function, one for each key that has a value. -/
def Lists (f : κ → Option α) (values : List α) : Prop :=
  ∃ keys : List κ, keys.Nodup ∧ (∀ k, k ∈ keys ↔ (f k).isSome = true) ∧
    keys.map f = values.map some

/-- Functions that agree where the first one has values have the same values at its keys. -/
theorem map_eq_map_of_some {f : κ → Option α} {keys : List κ} {values : List α}
    (hmap : keys.map f = values.map some) {g : κ → β} {g' : α → β}
    (h : ∀ k a, f k = some a → g k = g' a) : keys.map g = values.map g' := by
  induction keys generalizing values with
  | nil =>
    obtain rfl := List.map_eq_nil_iff.mp hmap.symm
    rfl
  | cons k keys ih =>
    obtain ⟨a, values', rfl, hk, hrest⟩ := List.map_eq_cons_iff.mp hmap.symm
    rw [List.map_cons, List.map_cons, h k a hk.symm, ih hrest.symm]

/-! ## Single values and lists -/

theorem lists_nil {f : κ → Option α} (h : ∀ k, f k = none) : Lists f [] :=
  ⟨[], List.nodup_nil, fun k => by simp [h k], rfl⟩

theorem lists_toList (o : Option α) : Lists (fun _ : Unit => o) o.toList := by
  cases o with
  | none => exact lists_nil fun _ => rfl
  | some a => exact ⟨[()], List.nodup_singleton (), fun k => by simp, rfl⟩

theorem lists_getElem? (l : List α) : Lists (fun i : Nat => l[i]?) l := by
  refine ⟨List.range l.length, List.nodup_range, fun i => by simp, ?_⟩
  apply List.ext_getElem?
  intro i
  by_cases hi : i < l.length
  · simp [hi]
  · simp [hi]

namespace Lists

/-! ## One function made of others -/

variable {f : κ → Option α} {values : List α}

theorem map (h : Lists f values) (g : α → β) :
    Lists (fun k => (f k).map g) (values.map g) := by
  obtain ⟨keys, hnodup, hmem, hmap⟩ := h
  refine ⟨keys, hnodup, fun k => by rw [hmem, Option.isSome_map], ?_⟩
  have hmap' := congrArg (List.map (Option.map g)) hmap
  simpa only [List.map_map, Function.comp_def, Option.map_some] using hmap'

theorem filterMap (h : Lists f values) (g : α → Option β) :
    Lists (fun k => (f k).bind g) (values.filterMap g) := by
  obtain ⟨keys, hnodup, hmem, hmap⟩ := h
  refine ⟨keys.filter fun k => ((f k).bind g).isSome, hnodup.filter _, fun k => ?_, ?_⟩
  · rw [List.mem_filter, hmem, and_iff_right_iff_imp]
    intro hsome
    exact Option.isSome_of_isSome_bind hsome
  · clear hnodup hmem
    induction keys generalizing values with
    | nil =>
      obtain rfl := List.map_eq_nil_iff.mp hmap.symm
      rfl
    | cons k keys ih =>
      obtain ⟨a, values', rfl, hk, hrest⟩ := List.map_eq_cons_iff.mp hmap.symm
      rw [List.filter_cons, List.filterMap_cons, ← hk, Option.bind_some]
      cases hg : g a with
      | none => exact ih hrest.symm
      | some b => simpa [← hk, hg] using ih hrest.symm

/-- Keys of another type, each of which is named by one of the old keys if it has a value. -/
theorem rekey (h : Lists f values) {g : ι → Option α} (name : κ → ι)
    (hinj : Function.Injective name) (heq : ∀ k, g (name k) = f k)
    (honly : ∀ i, (g i).isSome = true → ∃ k, name k = i) : Lists g values := by
  obtain ⟨keys, hnodup, hmem, hmap⟩ := h
  refine ⟨keys.map name, hnodup.map hinj, fun i => ?_, ?_⟩
  · constructor
    · intro hi
      obtain ⟨k, hk, rfl⟩ := List.mem_map.mp hi
      rw [heq]
      exact (hmem k).mp hk
    · intro hi
      obtain ⟨k, rfl⟩ := honly i hi
      exact List.mem_map_of_mem ((hmem k).mpr (heq k ▸ hi))
  · rw [← hmap, List.map_map]
    exact List.map_congr_left fun k _ => heq k

/-- The values of two functions with keys of their own. -/
theorem sum (h : Lists f values) {g : ι → Option α} {values' : List α} (h' : Lists g values') :
    Lists (Sum.elim f g) (values ++ values') := by
  obtain ⟨keys, hnodup, hmem, hmap⟩ := h
  obtain ⟨keys', hnodup', hmem', hmap'⟩ := h'
  refine ⟨keys.map Sum.inl ++ keys'.map Sum.inr, ?_, ?_, ?_⟩
  · refine (hnodup.map Sum.inl_injective).append (hnodup'.map Sum.inr_injective) ?_
    intro k hk hk'
    obtain ⟨_, -, rfl⟩ := List.mem_map.mp hk
    obtain ⟨_, -, heq⟩ := List.mem_map.mp hk'
    exact nomatch heq
  · rintro (k | k)
    · simp [hmem]
    · simp [hmem']
  · rw [List.map_append, List.map_map, List.map_map, List.map_append, ← hmap, ← hmap']
    rfl

/-- The values below every value of a function, which are found by a second key. -/
theorem flatMap (h : Lists f values) {below : α → ι → Option β} {found : α → List β}
    (hbelow : ∀ a ∈ values, Lists (below a) (found a)) :
    Lists (fun k : κ × ι => (f k.1).bind fun a => below a k.2) (values.flatMap found) := by
  obtain ⟨keys, hnodup, hmem, hmap⟩ := h
  have hvalue : ∀ k ∈ keys, ∀ a, f k = some a → a ∈ values := by
    intro k hk a ha
    have := List.mem_map_of_mem (f := f) hk
    rw [hmap, ha, List.mem_map] at this
    obtain ⟨a', ha', heq⟩ := this
    exact Option.some.inj heq ▸ ha'
  choose! inner hinner using hbelow
  -- A key is one of `f` with one of the keys below its value.
  refine ⟨keys.flatMap fun k => (f k).toList.flatMap fun a => (inner a).map (k, ·), ?_, ?_, ?_⟩
  · refine List.nodup_flatMap.mpr ⟨fun k hk => ?_, hnodup.imp fun {k k'} hne => ?_⟩
    · cases ha : f k with
      | none => exact List.nodup_nil
      | some a =>
        have ha' := (hinner a (hvalue k hk a ha)).1
        simpa using ha'.map fun _ _ heq => (Prod.mk.inj heq).2
    · intro x hx hx'
      obtain ⟨_, -, hx⟩ := List.mem_flatMap.mp hx
      obtain ⟨_, -, hx'⟩ := List.mem_flatMap.mp hx'
      obtain ⟨_, -, rfl⟩ := List.mem_map.mp hx
      obtain ⟨_, -, heq⟩ := List.mem_map.mp hx'
      exact hne (congrArg Prod.fst heq).symm
  · rintro ⟨k, i⟩
    cases ha : f k with
    | none => simp [List.mem_flatMap, ha]
    | some a =>
      have hk : k ∈ keys := (hmem k).mpr (by rw [ha]; rfl)
      have hi := (hinner a (hvalue k hk a ha)).2.1 i
      simp [List.mem_flatMap, ha, hk, hi]
  · clear hnodup hmem hvalue
    induction keys generalizing values with
    | nil =>
      obtain rfl := List.map_eq_nil_iff.mp hmap.symm
      rfl
    | cons k keys ih =>
      obtain ⟨a, values', rfl, hk, hrest⟩ := List.map_eq_cons_iff.mp hmap.symm
      have hfirst := (hinner a List.mem_cons_self).2.2
      have hothers := ih hrest.symm fun b hb => hinner b (List.mem_cons_of_mem a hb)
      rw [List.flatMap_cons, List.map_append, hothers, List.flatMap_cons, List.map_append,
        ← hfirst, ← hk]
      simp [Function.comp_def, ← hk]

/-! ## Paths -/

/-- What is found on the paths from a root: its own value at the end of the empty path, and what its
children find on the rest of a path that begins with them. -/
theorem paths {children : κ → Option α} {values : List α} (h : Lists children values)
    {below : α → List κ → Option β} {found : α → List β}
    (hbelow : ∀ a ∈ values, Lists (below a) (found a)) {all : List κ → Option β}
    (hall : ∀ k path, all (k :: path) = (children k).bind fun a => below a path) :
    Lists all ((all []).toList ++ values.flatMap found) := by
  -- The empty path stands for the root, and a path that begins with a key for what lies below it.
  refine ((lists_toList (all [])).sum (h.flatMap hbelow)).rekey
    (Sum.elim (fun _ => []) fun k => k.1 :: k.2) ?_ ?_ ?_
  · rintro (_ | ⟨k, path⟩) (_ | ⟨k', path'⟩) heq
    · rfl
    · exact nomatch heq
    · exact nomatch heq
    · obtain ⟨rfl, rfl⟩ := List.cons.inj heq
      rfl
  · rintro (_ | ⟨k, path⟩)
    · rfl
    · exact hall k path
  · rintro (_ | ⟨k, path⟩) -
    · exact ⟨.inl (), rfl⟩
    · exact ⟨.inr (k, path), rfl⟩

end Lists
end QueryLint
