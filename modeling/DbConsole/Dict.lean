/-!
Dictionaries with text keys, kept in ascending order of the keys.
-/
set_option autoImplicit false

namespace DbConsole

/-- Puts a pair into a list that ascends by key, in place of the pair that has the key. -/
def insertSorted {β : Type} (key : String) (value : β) : List (String × β) → List (String × β)
  | [] => [(key, value)]
  | (k, v) :: rest =>
    if key < k then (key, value) :: (k, v) :: rest
    else if key = k then (key, value) :: rest
    else (k, v) :: insertSorted key value rest

def Ascending {β : Type} (pairs : List (String × β)) : Prop :=
  pairs.Pairwise fun p q => p.1 < q.1

theorem key_of_mem_insertSorted {β : Type} {key : String} {value : β} {pairs : List (String × β)}
    {p : String × β} (h : p ∈ insertSorted key value pairs) : p.1 = key ∨ p ∈ pairs := by
  induction pairs with
  | nil => simp_all [insertSorted]
  | cons q rest ih =>
    simp only [insertSorted] at h
    split at h
    · simp_all
      grind
    · split at h <;> simp_all <;> grind

theorem ascending_insertSorted {β : Type} (key : String) (value : β) {pairs : List (String × β)}
    (h : Ascending pairs) : Ascending (insertSorted key value pairs) := by
  induction pairs with
  | nil => simp [insertSorted, Ascending]
  | cons q rest ih =>
    obtain ⟨hq, hrest⟩ := List.pairwise_cons.1 h
    simp only [insertSorted]
    split
    · rename_i hlt
      refine List.pairwise_cons.2 ⟨?_, h⟩
      intro p hp
      rcases List.mem_cons.1 hp with rfl | hp
      · exact hlt
      · exact String.lt_trans hlt (hq p hp)
    · split
      · rename_i heq
        refine List.pairwise_cons.2 ⟨?_, hrest⟩
        intro p hp
        exact heq ▸ hq p hp
      · refine List.pairwise_cons.2 ⟨?_, ih hrest⟩
        intro p hp
        rcases key_of_mem_insertSorted hp with hk | hp
        · grind
        · exact hq p hp

/-- The pairs in ascending order of keys; of several with one key the last. -/
def sortPairs {β : Type} (pairs : List (String × β)) : List (String × β) :=
  pairs.foldl (fun acc p => insertSorted p.1 p.2 acc) []

structure Dict (β : Type) where
  entries : List (String × β)
  ascending : Ascending entries

namespace Dict

variable {β : Type}

def empty : Dict β :=
  ⟨[], List.Pairwise.nil⟩

instance : Inhabited (Dict β) := ⟨empty⟩

def isEmpty (d : Dict β) : Bool :=
  d.entries.isEmpty

def insert (d : Dict β) (key : String) (value : β) : Dict β :=
  ⟨insertSorted key value d.entries, ascending_insertSorted key value d.ascending⟩

def erase (d : Dict β) (key : String) : Dict β :=
  ⟨d.entries.filter (·.1 != key), List.Pairwise.filter _ d.ascending⟩

def contains (d : Dict β) (key : String) : Bool :=
  d.entries.any (·.1 == key)

def get? (d : Dict β) (key : String) : Option β :=
  (d.entries.find? (·.1 == key)).map (·.2)

def keys (d : Dict β) : List String :=
  d.entries.map (·.1)

/-- The dictionary of the pairs; of several with one key the last. -/
def ofList (pairs : List (String × β)) : Dict β :=
  pairs.foldl (fun d p => d.insert p.1 p.2) empty

def map {γ : Type} (f : β → γ) (d : Dict β) : Dict γ :=
  ⟨d.entries.map fun p => (p.1, f p.2), by
    simpa [Ascending, List.pairwise_map] using d.ascending⟩

instance [DecidableEq β] : DecidableEq (Dict β) := fun a b =>
  decidable_of_iff (a.entries = b.entries) (by cases a; cases b; simp)

end Dict

end DbConsole
