import DbConsole.Dict

/-!
What a dictionary holds after an insertion, and dictionaries made from pairs that ascend already.
-/
set_option autoImplicit false

namespace DbConsole

variable {β : Type}

theorem find?_insertSorted (key : String) (value : β) (pairs : List (String × β)) (k : String) :
    (insertSorted key value pairs).find? (·.1 == k) =
      if k = key then some (key, value) else pairs.find? (·.1 == k) := by
  induction pairs with
  | nil => simp only [insertSorted, List.find?_cons, List.find?_nil]; grind
  | cons p rest ih =>
    simp only [insertSorted]
    split
    · grind
    · split
      · grind
      · grind

theorem Dict.get?_insert (d : Dict β) (key : String) (value : β) (k : String) :
    (d.insert key value).get? k = if k = key then some value else d.get? k := by
  rw [get?, insert, find?_insertSorted]
  split
  · rfl
  · rfl

theorem keys_foldl_insertSorted (pairs : List (String × β)) : ∀ acc : List (String × β),
    ∀ p ∈ pairs.foldl (fun acc p => insertSorted p.1 p.2 acc) acc,
      p.1 ∈ acc.map Prod.fst ∨ p.1 ∈ pairs.map Prod.fst := by
  induction pairs with
  | nil => exact fun acc p mem => .inl (List.mem_map_of_mem mem)
  | cons q rest ih =>
    intro acc p mem
    rcases ih _ p mem with inserted | later
    · obtain ⟨p', member, same⟩ := List.mem_map.mp inserted
      rcases key_of_mem_insertSorted member with first | before
      · exact .inr (by rw [← same, first]; exact List.mem_cons_self)
      · exact .inl (by rw [← same]; exact List.mem_map_of_mem before)
    · exact .inr (.tail _ later)

/-- No keys come in by sorting. -/
theorem keys_sortPairs_subset (pairs : List (String × β)) :
    (sortPairs pairs).map Prod.fst ⊆ pairs.map Prod.fst := by
  intro k mem
  obtain ⟨p, member, rfl⟩ := List.mem_map.mp mem
  exact (keys_foldl_insertSorted pairs [] p member).resolve_left List.not_mem_nil

theorem insertSorted_append {key : String} (value : β) {pairs : List (String × β)}
    (last : ∀ p ∈ pairs, p.1 < key) : insertSorted key value pairs = pairs ++ [(key, value)] := by
  induction pairs with
  | nil => rfl
  | cons p rest ih =>
    have before : p.1 < key := last p List.mem_cons_self
    rw [insertSorted, if_neg (String.lt_asymm before), if_neg (String.ne_of_lt before).symm,
      ih fun q mem => last q (.tail p mem), List.cons_append]

theorem foldl_insertSorted {pairs : List (String × β)} : ∀ {acc : List (String × β)},
    Ascending (acc ++ pairs) →
      pairs.foldl (fun acc p => insertSorted p.1 p.2 acc) acc = acc ++ pairs := by
  induction pairs with
  | nil => intro acc _; exact (List.append_nil acc).symm
  | cons p rest ih =>
    intro acc ascending
    have last : ∀ q ∈ acc, q.1 < p.1 := fun q mem =>
      (List.pairwise_append.mp ascending).2.2 q mem p List.mem_cons_self
    have shifted : acc ++ p :: rest = acc ++ [(p.1, p.2)] ++ rest := by simp
    rw [List.foldl_cons, insertSorted_append p.2 last, shifted]
    exact ih (shifted ▸ ascending)

/-- Pairs that ascend already stay as they are. -/
theorem sortPairs_of_ascending {pairs : List (String × β)} (ascending : Ascending pairs) :
    sortPairs pairs = pairs :=
  foldl_insertSorted ascending

theorem Dict.entries_foldl_insert (pairs : List (String × β)) : ∀ d : Dict β,
    (pairs.foldl (fun d p => d.insert p.1 p.2) d).entries =
      pairs.foldl (fun acc p => insertSorted p.1 p.2 acc) d.entries := by
  induction pairs with
  | nil => exact fun _ => rfl
  | cons p rest ih => exact fun d => ih (d.insert p.1 p.2)

theorem Dict.eq_of_entries {d d' : Dict β} (same : d.entries = d'.entries) : d = d' := by
  cases d
  cases d'
  cases same
  rfl

theorem Dict.entries_ofList (pairs : List (String × β)) : (ofList pairs).entries = sortPairs pairs :=
  entries_foldl_insert pairs empty

/-- A dictionary is made of its own entries. -/
theorem Dict.ofList_entries (d : Dict β) : Dict.ofList d.entries = d :=
  eq_of_entries ((entries_ofList d.entries).trans (sortPairs_of_ascending d.ascending))

theorem Dict.keys_ofList_subset (pairs : List (String × β)) :
    (ofList pairs).keys ⊆ pairs.map Prod.fst := by
  rw [keys, entries_ofList]
  exact keys_sortPairs_subset pairs

theorem Dict.get?_eq_none {d : Dict β} {key : String} (absent : key ∉ d.keys) :
    d.get? key = none := by
  refine Option.map_eq_none_iff.mpr (List.find?_eq_none.mpr fun p mem same => absent ?_)
  exact List.mem_map.mpr ⟨p, mem, beq_iff_eq.mp same⟩

theorem Dict.not_mem_keys_erase (d : Dict β) (key : String) : key ∉ (d.erase key).keys := by
  intro mem
  obtain ⟨p, kept, same⟩ := List.mem_map.mp mem
  exact bne_iff_ne.mp (List.mem_filter.mp kept).2 same

theorem Dict.get?_erase (d : Dict β) (key k : String) :
    (d.erase key).get? k = if k = key then none else d.get? k := by
  by_cases same : k = key
  · subst same
    rw [if_pos rfl]
    exact Dict.get?_eq_none (Dict.not_mem_keys_erase d k)
  · rw [if_neg same, get?, erase, List.find?_filter, get?]
    refine congrArg (Option.map _) (congrArg (List.find? · d.entries) (funext fun p => ?_))
    by_cases found : p.1 = k
    · subst found
      simp [same]
    · simp [found]

theorem Dict.erase_of_not_contains {d : Dict β} {key : String}
    (lacks : d.contains key = false) : d.erase key = d := by
  refine Dict.eq_of_entries (List.filter_eq_self.mpr fun p mem => ?_)
  have apart := List.any_eq_false.mp lacks p mem
  exact bne_iff_ne.mpr fun same => apart (beq_iff_eq.mpr same)

/-! ### Sorted pairs -/

theorem mem_iff_find? {pairs : List (String × β)} (ascending : Ascending pairs) (key : String)
    (value : β) : (key, value) ∈ pairs ↔ (pairs.find? (·.1 == key)).map (·.2) = some value := by
  induction pairs with
  | nil => simp
  | cons p rest ih =>
    have ⟨before, ascending'⟩ := List.pairwise_cons.mp ascending
    by_cases same : p.1 = key
    · have absent : (key, value) ∉ rest := by
        intro member
        have less := before _ member
        rw [same] at less
        exact String.lt_irrefl key less
      simp [same, absent, Prod.ext_iff, eq_comm]
    · have apart : (key, value) ≠ p := fun same' => same (congrArg Prod.fst same').symm
      rw [List.mem_cons, List.find?_cons_of_neg (by simpa using same), ← ih ascending']
      exact or_iff_right apart

theorem Dict.mem_entries_iff (d : Dict β) (key : String) (value : β) :
    (key, value) ∈ d.entries ↔ d.get? key = some value :=
  mem_iff_find? d.ascending key value

theorem Dict.isEmpty_iff (d : Dict β) : d.isEmpty = true ↔ ∀ key, d.get? key = none := by
  rw [isEmpty, List.isEmpty_iff]
  constructor
  · intro none_ key
    rw [get?, none_]
    rfl
  · intro absent
    refine List.eq_nil_iff_forall_not_mem.mpr fun p mem => ?_
    have held := (d.mem_entries_iff p.1 p.2).mp mem
    rw [absent] at held
    cases held

/-- What stands before a key are the pairs of smaller keys. -/
theorem mem_before_iff {before behind : List (String × β)} {p q : String × β}
    (ascending : Ascending (before ++ q :: behind)) :
    p ∈ before ↔ p ∈ before ++ q :: behind ∧ p.1 < q.1 := by
  have ⟨_, late, apart⟩ := List.pairwise_append.mp ascending
  constructor
  · intro early
    exact ⟨List.mem_append_left _ early, apart p early q List.mem_cons_self⟩
  · rintro ⟨mem, less⟩
    refine (List.mem_append.mp mem).resolve_right fun behind => ?_
    rcases List.mem_cons.mp behind with rfl | behind
    · exact String.lt_irrefl _ less
    · exact String.lt_irrefl _ (String.lt_trans less ((List.pairwise_cons.mp late).1 p behind))

theorem mem_insertSorted {key : String} {value : β} {pairs : List (String × β)} {p : String × β}
    (mem : p ∈ insertSorted key value pairs) : p = (key, value) ∨ p ∈ pairs := by
  induction pairs with
  | nil => exact .inl (List.mem_singleton.mp mem)
  | cons q rest ih =>
    rw [insertSorted] at mem
    split at mem
    · exact List.mem_cons.mp mem
    · split at mem
      · exact (List.mem_cons.mp mem).imp_right (.tail q)
      · rcases List.mem_cons.mp mem with rfl | mem
        · exact .inr List.mem_cons_self
        · exact (ih mem).imp_right (.tail q)

theorem mem_foldl_insertSorted {pairs : List (String × β)} : ∀ {acc : List (String × β)},
    ∀ p ∈ pairs.foldl (fun acc p => insertSorted p.1 p.2 acc) acc, p ∈ acc ∨ p ∈ pairs := by
  induction pairs with
  | nil => exact fun p mem => .inl mem
  | cons q rest ih =>
    intro acc p mem
    rcases ih p mem with inserted | later
    · rcases mem_insertSorted inserted with rfl | before
      · exact .inr List.mem_cons_self
      · exact .inl before
    · exact .inr (.tail q later)

theorem mem_of_mem_sortPairs {pairs : List (String × β)} {p : String × β}
    (mem : p ∈ sortPairs pairs) : p ∈ pairs :=
  (mem_foldl_insertSorted p mem).resolve_left List.not_mem_nil

theorem ascending_sortPairs (pairs : List (String × β)) : Ascending (sortPairs pairs) :=
  Dict.entries_ofList pairs ▸ (Dict.ofList pairs).ascending

end DbConsole
