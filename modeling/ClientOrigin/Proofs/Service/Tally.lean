import ClientOrigin.Metrics
import Mathlib.Algebra.GroupWithZero.Nat
import Mathlib.Data.List.Nodup

/-!
# Counters as tallies

Counters only ever go up by one.  So the value of a counter is how often it was raised
(`value_tally`), and the sum of all counters of one name is how often any of them was
(`total_tally`).
-/

namespace ClientOrigin.Metrics

/-- The sum of the counters that are shown under one name, over all their labels. -/
def total (m : Metrics) (name : String) : Nat :=
  ((m.entries.filter fun entry => entry.1.name = name).map Prod.snd).sum

/-- The metrics after some counters have been raised, one after another. -/
def tally (m : Metrics) (raised : List Counter) : Metrics := raised.foldl increment m

theorem tally_append (m : Metrics) (first later : List Counter) :
    m.tally (first ++ later) = (m.tally first).tally later := List.foldl_append

/-! ## One counter -/

theorem lookup_map_raise (entries : List (Counter × Nat)) (c d : Counter) :
    (entries.map fun entry => if entry.1 = c then (c, entry.2 + 1) else entry).lookup d =
      (entries.lookup d).map fun n => if d = c then n + 1 else n := by
  induction entries with
  | nil => rfl
  | cons entry rest ih =>
      obtain ⟨key, n⟩ := entry
      by_cases own : key = c
      · by_cases same : d = c
        · simp [own, same]
        · simp [own, List.lookup_cons, beq_eq_false_iff_ne.mpr same, ih, same]
      · by_cases same : d = key
        · simp [own, same]
        · simp [own, List.lookup_cons, beq_eq_false_iff_ne.mpr same, ih]

/-- Raising a counter raises its value by one, and no other. -/
theorem value_increment (m : Metrics) (c d : Counter) :
    (m.increment c).value d = m.value d + [c].count d := by
  unfold increment value
  split
  · next present =>
      rw [lookup_map_raise]
      by_cases same : d = c
      · obtain ⟨n, found⟩ := Option.isSome_iff_exists.mp present
        simp [same, found]
      · cases m.entries.lookup d <;> simp [same, Ne.symm same]
  · next absent =>
      rw [List.lookup_append]
      by_cases same : d = c
      · rw [Option.not_isSome_iff_eq_none] at absent
        simp [same, absent]
      · cases m.entries.lookup d <;>
          simp [List.lookup_cons, beq_eq_false_iff_ne.mpr same, Ne.symm same]

/-- The value of a counter is how often it was raised. -/
theorem value_tally (m : Metrics) (raised : List Counter) (d : Counter) :
    (m.tally raised).value d = m.value d + raised.count d := by
  induction raised generalizing m with
  | nil => rfl
  | cons c rest ih =>
      show ((m.increment c).tally rest).value d = m.value d + (c :: rest).count d
      rw [ih, value_increment, Nat.add_assoc, ← List.count_append, List.singleton_append]

/-! ## All counters of one name -/

/-- Each counter has at most one entry. -/
def Distinct (m : Metrics) : Prop := (m.entries.map Prod.fst).Nodup

theorem distinct_increment {m : Metrics} (h : m.Distinct) (c : Counter) :
    (m.increment c).Distinct := by
  unfold increment Distinct
  split
  · have keys : (m.entries.map fun entry => if entry.1 = c then (c, entry.2 + 1) else entry).map
        Prod.fst = m.entries.map Prod.fst := by
      rw [List.map_map]
      refine List.map_congr_left fun entry _ => ?_
      rw [Function.comp_apply]
      split
      · next own => exact own.symm
      · rfl
    rw [keys]
    exact h
  · next absent =>
      have fresh : c ∉ m.entries.map Prod.fst := by
        intro mem
        obtain ⟨entry, inside, key⟩ := List.mem_map.mp mem
        exact absent (List.lookup_isSome_iff.mpr ⟨entry, inside, beq_iff_eq.mpr key.symm⟩)
      rw [List.map_append]
      exact List.nodup_append.mpr ⟨h, List.nodup_singleton c, fun a inside b last =>
        ne_of_mem_of_not_mem inside (List.mem_singleton.mp last ▸ fresh)⟩

/-- Where a key stands once, raising it adds one to the sum of the entries of its name. -/
theorem sum_map_raise {entries : List (Counter × Nat)} (distinct : (entries.map Prod.fst).Nodup)
    {c : Counter} (present : c ∈ entries.map Prod.fst) (name : String) :
    (((entries.map fun entry => if entry.1 = c then (c, entry.2 + 1) else entry).filter
        fun entry => entry.1.name = name).map Prod.snd).sum =
      ((entries.filter fun entry => entry.1.name = name).map Prod.snd).sum +
        if c.name = name then 1 else 0 := by
  induction entries with
  | nil => exact absurd present List.not_mem_nil
  | cons entry rest ih =>
      obtain ⟨key, n⟩ := entry
      obtain ⟨fresh, distinct⟩ := List.nodup_cons.mp distinct
      by_cases own : key = c
      · subst own
        -- no later entry is raised
        have kept : (rest.map fun entry => if entry.1 = key then (key, entry.2 + 1) else entry) =
            rest := by
          refine (List.map_congr_left fun entry mem => if_neg ?_).trans (List.map_id' rest)
          exact fun same => fresh (List.mem_map.mpr ⟨entry, mem, same⟩)
        rw [List.map_cons, kept]
        by_cases shown : key.name = name
        · simp [shown]
          omega
        · simp [shown]
      · have later : c ∈ rest.map Prod.fst :=
          (List.mem_cons.mp present).resolve_left (Ne.symm own)
        have raised := ih distinct later
        by_cases shown : key.name = name
        · simp only [List.map_cons, own, if_false, List.filter_cons, shown, decide_true, if_true,
            List.sum_cons, raised, Nat.add_assoc]
        · simp only [List.map_cons, own, if_false, List.filter_cons, shown, decide_false,
            Bool.false_eq_true, raised]

theorem total_increment {m : Metrics} (h : m.Distinct) (c : Counter) (name : String) :
    (m.increment c).total name = m.total name + if c.name = name then 1 else 0 := by
  unfold increment total
  split
  · next present =>
      obtain ⟨entry, mem, key⟩ := List.lookup_isSome_iff.mp present
      rw [beq_iff_eq] at key
      exact sum_map_raise h (key ▸ List.mem_map_of_mem mem) name
  · rw [List.filter_append, List.map_append, List.sum_append]
    by_cases shown : c.name = name
    · simp [shown]
    · simp [shown]

/-- The sum of the counters of one name is how often one of them was raised. -/
theorem total_tally {m : Metrics} (h : m.Distinct) (raised : List Counter) (name : String) :
    (m.tally raised).total name = m.total name + raised.countP fun c => c.name = name := by
  induction raised generalizing m with
  | nil => rfl
  | cons c rest ih =>
      show ((m.increment c).tally rest).total name = _
      rw [ih (distinct_increment h c), total_increment h, List.countP_cons]
      simp only [decide_eq_true_eq]
      omega

end ClientOrigin.Metrics
