import DbConsole.Proofs.Json.Lawful
import DbConsole.Proofs.Json.Layout

/-!
A document is read back from its indented text, as far as the depth allows. What has been read is never
too deep to be read again, and the fields of its objects ascend.
-/
set_option autoImplicit false

namespace DbConsole

namespace Json

/-! ### What has been read -/

theorem orderedFields_iff {fields : List (String × Json)} :
    OrderedFields fields ↔ ∀ p ∈ fields, p.2.Ordered := by
  induction fields with
  | nil => simp [OrderedFields]
  | cons p fields ih => simp [OrderedFields, ih]

mutual
theorem ordered_canonical : ∀ j : Json, j.canonical.Ordered
  | .null | .bool _ | .number _ | .string _ => trivial
  | .array items => orderedItems_canonicalItems items
  | .object fields => ⟨ascending_sortPairs _, orderedFields_iff.mpr fun _ mem =>
      ordered_of_mem_canonicalFields fields (mem_of_mem_sortPairs mem)⟩

theorem orderedItems_canonicalItems : ∀ items : List Json, OrderedItems (canonicalItems items)
  | [] => trivial
  | j :: rest => ⟨ordered_canonical j, orderedItems_canonicalItems rest⟩

theorem ordered_of_mem_canonicalFields : ∀ (fields : List (String × Json)) {p : String × Json},
    p ∈ canonicalFields fields → p.2.Ordered
  | (_, j) :: rest, p, mem => by
    rcases List.mem_cons.mp mem with rfl | mem
    · exact ordered_canonical j
    · exact ordered_of_mem_canonicalFields rest mem
end

mutual
theorem nesting_canonical_le : ∀ j : Json, j.canonical.nesting ≤ j.nesting
  | .null | .bool _ | .number _ | .string _ => Nat.le_refl _
  | .array items => Nat.succ_le_succ (nestingItems_canonicalItems_le items)
  | .object fields => Nat.succ_le_succ (nestingFields_le_iff.mpr fun _ mem =>
      nestingFields_le_iff.mp (nestingFields_canonicalFields_le fields) _
        (mem_of_mem_sortPairs mem))

theorem nestingItems_canonicalItems_le : ∀ items : List Json,
    nestingItems (canonicalItems items) ≤ nestingItems items
  | [] => Nat.le_refl _
  | j :: rest => max_le_max (nesting_canonical_le j) (nestingItems_canonicalItems_le rest)

theorem nestingFields_canonicalFields_le : ∀ fields : List (String × Json),
    nestingFields (canonicalFields fields) ≤ nestingFields fields
  | [] => Nat.le_refl _
  | (_, j) :: rest =>
    max_le_max (nesting_canonical_le j) (nestingFields_canonicalFields_le rest)
end

namespace Reader

variable {α γ : Type}

/-- Whatever the reader finds is good. -/
def Yields (r : Reader α) (good : α → Prop) : Prop :=
  ∀ s a t, r s = .ok (a, t) → good a

namespace Yields

variable {r : Reader α} {f : α → Reader γ} {good : α → Prop} {good' : γ → Prop}

theorem of_fails (fails : Fails r) : Yields r good :=
  fun s a t read => absurd read (fails s a t)

theorem pure {a : α} (held : good a) : Yields (Pure.pure a) good := by
  rintro s _ t ⟨⟩
  exact held

theorem bind (first : Yields r good) (later : ∀ a, good a → Yields (f a) good') :
    Yields (r >>= f) good' := by
  intro s c t read
  obtain ⟨a, s', found, onward⟩ := bind_eq_ok.mp read
  exact later a (first s a s' found) s' c t onward

theorem behind (later : ∀ a, Yields (f a) good') : Yields (r >>= f) good' :=
  bind (fun _ _ _ _ => trivial : Yields r fun _ => True) fun a _ => later a

theorem ite {p : Prop} [Decidable p] {r' : Reader α} (first : Yields r good)
    (second : Yields r' good) : Yields (if p then r else r') good := by
  split
  · exact first
  · exact second

theorem items (each : Yields r good) (fuel : Nat) (first : Bool) :
    Yields (Reader.items r fuel first) fun as => ∀ a ∈ as, good a := by
  induction fuel generalizing first with
  | zero => exact .of_fails (.fail _)
  | succ fuel ih =>
    refine .behind fun more => .ite ?_ (.pure fun _ mem => absurd mem List.not_mem_nil)
    exact .bind each fun a held => .bind (ih false) fun as all =>
      .pure (List.forall_mem_cons.mpr ⟨held, all⟩)

theorem fields (each : Yields r good) (fuel : Nat) (first : Bool) :
    Yields (Reader.fields r fuel first) fun ps => ∀ p ∈ ps, good p.2 := by
  induction fuel generalizing first with
  | zero => exact .of_fails (.fail _)
  | succ fuel ih =>
    refine .behind fun more => .ite ?_ (.pure fun _ mem => absurd mem List.not_mem_nil)
    exact .behind fun k => .behind fun _ => .bind each fun a held => .bind (ih false) fun ps all =>
      .pure (List.forall_mem_cons.mpr ⟨held, all⟩)

theorem listOf (each : Yields r good) : Yields (Reader.listOf r) fun as => ∀ a ∈ as, good a :=
  .behind fun _ => .behind fun _ => .bind (items each _ true) fun _ all => .behind fun _ => .pure all

theorem objectOf (each : Yields r good) :
    Yields (Reader.objectOf r) fun ps => ∀ p ∈ ps, good p.2 :=
  .behind fun _ => .behind fun _ => .bind (fields each _ true) fun _ all => .behind fun _ => .pure all

end Yields

/-- No more containers are open than the depth allows. -/
theorem yields_verbatim (depth : Nat) : Yields (verbatim depth) fun j => j.nesting ≤ depth := by
  induction depth with
  | zero =>
    rw [verbatim.eq_def]
    refine .behind fun o => ?_
    split
    case h_1 | h_6 | h_7 => exact .of_fails (.failNext _)
    case h_2 | h_3 | h_4 => exact .behind fun _ => .behind fun _ => .pure (Nat.le_refl 0)
    case h_5 => exact .behind fun _ => .behind fun _ => .pure (Nat.le_refl 0)
    case h_8 => exact .ite (.behind fun _ => .pure (Nat.le_refl 0)) (.of_fails (.failNext _))
  | succ depth ih =>
    rw [verbatim.eq_def]
    refine .behind fun o => ?_
    split
    case h_1 => exact .of_fails (.failNext _)
    case h_2 | h_3 | h_4 => exact .behind fun _ => .behind fun _ => .pure (Nat.zero_le _)
    case h_5 => exact .behind fun _ => .behind fun _ => .pure (Nat.zero_le _)
    case h_6 =>
      exact .bind (.listOf ih) fun items all =>
        .pure (Nat.succ_le_succ (nestingItems_le_iff.mpr all))
    case h_7 =>
      exact .bind (.objectOf ih) fun fields all =>
        .pure (Nat.succ_le_succ (nestingFields_le_iff.mpr all))
    case h_8 => exact .ite (.behind fun _ => .pure (Nat.zero_le _)) (.of_fails (.failNext _))

end Reader

/-- A document that has been read can be read again: it is not too deep, and its fields ascend. -/
theorem readable_of_parse {text : String} {j : Json} (parsed : parse text = .ok j) :
    j.nesting ≤ Reader.maxDepth ∧ j.Ordered := by
  obtain ⟨read, ran, rfl⟩ := Reader.map_eq_ok.mp parsed
  obtain ⟨t, reached, -⟩ := Reader.run_eq_ok.mp ran
  have shallow := Reader.yields_verbatim Reader.maxDepth _ _ _ reached
  exact ⟨Nat.le_trans (nesting_canonical_le read) shallow, ordered_canonical read⟩

/-! ### The indented text -/

theorem sublist_newline (d : Nat) (cs : List Char) : cs.Sublist (newline d cs) :=
  .cons _ (List.sublist_append_right _ cs)

mutual
/-- The compact text is what is left of the indented one when spaces are left out. -/
theorem compactChars_sublist (d : Nat) {rest rest' : List Char} (later : rest.Sublist rest') :
    ∀ j : Json, (compactChars j rest).Sublist (prettyChars d j rest')
  | .null | .bool true | .bool false | .number _ | .string _ => later.append_left _
  | .array [] | .object [] => (later.cons_cons _).cons_cons _
  | .array (j :: items) =>
    ((compactChars_sublist (d + 1) (compactItems_sublist d later items) j).trans
      (sublist_newline _ _)).cons_cons _
  | .object ((_, j) :: fields) =>
    (((((compactChars_sublist (d + 1) (compactFields_sublist d later fields) j).cons ' ').cons_cons
      ':').append_left _).trans (sublist_newline _ _)).cons_cons _

theorem compactItems_sublist (d : Nat) {rest rest' : List Char} (later : rest.Sublist rest') :
    ∀ items : List Json, (compactItems items rest).Sublist (prettyItems d items rest')
  | [] => (later.cons_cons _).trans (sublist_newline _ _)
  | j :: items =>
    ((compactChars_sublist (d + 1) (compactItems_sublist d later items) j).trans
      (sublist_newline _ _)).cons_cons _

theorem compactFields_sublist (d : Nat) {rest rest' : List Char} (later : rest.Sublist rest') :
    ∀ fields : List (String × Json), (compactFields fields rest).Sublist (prettyFields d fields rest')
  | [] => (later.cons_cons _).trans (sublist_newline _ _)
  | (_, j) :: fields =>
    (((((compactChars_sublist (d + 1) (compactFields_sublist d later fields) j).cons ' ').cons_cons
      ':').append_left _).trans (sublist_newline _ _)).cons_cons _
end

theorem length_le_itemsLines (d : Nat) (items : List Json) (rest : List Char) :
    items.length ≤ (itemsLines d true items rest).length := by
  have kept := (compactChars_sublist d (.refl rest) (.array items)).length_le
  rw [compactChars_array, prettyChars_array] at kept
  exact Nat.le_trans (length_le_itemsText items rest) (Nat.le_of_succ_le_succ kept)

theorem length_le_fieldsLines (d : Nat) (fields : List (String × Json)) (rest : List Char) :
    fields.length ≤ (fieldsLines d true fields rest).length := by
  have kept := (compactChars_sublist d (.refl rest) (.object fields)).length_le
  rw [compactChars_object, prettyChars_object] at kept
  exact Nat.le_trans (length_le_fieldsText fields rest) (Nat.le_of_succ_le_succ kept)

namespace Reader

variable {d depth fuel : Nat} {rest : List Char}

/-- The reader takes the indented text of the document as the document, whatever follows it. -/
def TakesIndented (r : Reader Json) (d : Nat) (j : Json) : Prop :=
  ∀ rest, Ends rest → Takes r (prettyChars d j rest) j rest

theorem Takes.verbatim_space {j : Json} {before after : List Char}
    (taken : Takes (verbatim depth) before j after) :
    Takes (verbatim depth) (' ' :: before) j after := by
  intro p
  obtain ⟨p', read⟩ := taken (p.after ' ')
  refine ⟨p', ?_⟩
  rw [verbatim_next (next_eq ⟨before, p.after ' '⟩)] at read
  rw [verbatim_next (next_eq ⟨' ' :: before, p⟩)]
  exact read

theorem takes_itemsLines (items : List Json)
    (each : ∀ j ∈ items, TakesIndented (verbatim depth) (d + 1) j) (enough : items.length < fuel)
    (first : Bool) :
    Takes (Reader.items (verbatim depth) fuel first) (itemsLines d first items rest) items
      (']' :: rest) := by
  obtain ⟨fuel, rfl⟩ := Nat.exists_eq_succ_of_ne_zero (Nat.ne_zero_of_lt enough)
  induction items generalizing fuel first with
  | nil => exact (takes_moreItems_last first rest).bind (.pure [] _)
  | cons j items ih =>
    have fewer : items.length < fuel := Nat.lt_of_succ_lt_succ enough
    obtain ⟨fuel, rfl⟩ := Nat.exists_eq_succ_of_ne_zero (Nat.ne_zero_of_lt fewer)
    have taken := each j List.mem_cons_self (itemsLines d false items rest) (ends_prettyItems items)
    have onward := ih (fun i mem => each i (.tail j mem)) false fuel fewer
    exact (takes_moreItems_line first items rest).bind (taken.bind (onward.bind (.pure _ _)))

theorem takes_fieldsLines (fields : List (String × Json))
    (each : ∀ p ∈ fields, TakesIndented (verbatim depth) (d + 1) p.2)
    (enough : fields.length < fuel) (first : Bool) :
    Takes (Reader.fields (verbatim depth) fuel first) (fieldsLines d first fields rest) fields
      ('\x7d' :: rest) := by
  obtain ⟨fuel, rfl⟩ := Nat.exists_eq_succ_of_ne_zero (Nat.ne_zero_of_lt enough)
  induction fields generalizing fuel first with
  | nil => exact (takes_moreFields_last first rest).bind (.pure [] _)
  | cons p fields ih =>
    have fewer : fields.length < fuel := Nat.lt_of_succ_lt_succ enough
    obtain ⟨fuel, rfl⟩ := Nat.exists_eq_succ_of_ne_zero (Nat.ne_zero_of_lt fewer)
    have taken := each p List.mem_cons_self (fieldsLines d false fields rest) (ends_prettyFields fields)
    have onward := ih (fun q mem => each q (.tail p mem)) false fuel fewer
    exact (takes_moreFields_line first p.1 p.2 fields rest).bind ((takes_key p.1 _).bind
      ((takes_colon _).bind (taken.verbatim_space.bind (onward.bind (.pure _ _)))))

/-- A document that the depth allows is read back from its indented text. -/
theorem takes_verbatim_indented (j : Json) : ∀ depth d, j.fits = true → j.nesting ≤ depth →
    TakesIndented (verbatim depth) d j := by
  induction j using induct with
  | array items ih =>
    intro depth d fits nests rest _
    obtain ⟨depth, rfl⟩ := Nat.exists_eq_succ_of_ne_zero (Nat.ne_zero_of_lt nests)
    have itemsFit := fitsItems_iff.mp fits
    have itemsNest := nestingItems_le_iff.mp (Nat.le_of_succ_le_succ nests)
    have long := length_le_itemsLines d items rest
    have taken : Takes _ (itemsLines d true items rest) items _ := takes_itemsLines items
      (fun j mem => ih j mem depth (d + 1) (itemsFit j mem) (itemsNest j mem))
      (Nat.lt_succ_of_le long) true
    rw [verbatim.eq_def, prettyChars_array]
    exact (Takes.next rfl _).bind (((Takes.skip '[' _).bind ((Takes.length _).bind
      (taken.bind ((Takes.skip ']' rest).bind (.pure items rest))))).bind (.pure _ rest))
  | object fields ih =>
    intro depth d fits nests rest _
    obtain ⟨depth, rfl⟩ := Nat.exists_eq_succ_of_ne_zero (Nat.ne_zero_of_lt nests)
    have fieldsFit := fitsFields_iff.mp fits
    have fieldsNest := nestingFields_le_iff.mp (Nat.le_of_succ_le_succ nests)
    have long := length_le_fieldsLines d fields rest
    have taken : Takes _ (fieldsLines d true fields rest) fields _ := takes_fieldsLines fields
      (fun p mem => ih p mem depth (d + 1) (fieldsFit p mem) (fieldsNest p mem))
      (Nat.lt_succ_of_le long) true
    rw [verbatim.eq_def, prettyChars_object]
    exact (Takes.next rfl _).bind (((Takes.skip '\x7b' _).bind ((Takes.length _).bind
      (taken.bind ((Takes.skip '\x7d' rest).bind (.pure fields rest))))).bind (.pure _ rest))
  | bool b =>
    -- Scalars are written alike in both texts.
    intro depth d fits nests
    cases b <;> exact takes_verbatim _ depth fits nests
  | _ =>
    intro depth d fits nests
    exact takes_verbatim _ depth fits nests

end Reader

/-- A document that has been read is read back from its indented text if 64 bits hold its numbers. -/
theorem parse_pretty {j : Json} (fits : j.fits = true) (shallow : j.nesting ≤ Reader.maxDepth)
    (ordered : j.Ordered) : parse j.pretty = .ok j := by
  have nothing : Reader.Ends [] := nofun
  have taken := Reader.takes_verbatim_indented j Reader.maxDepth 0 fits shallow [] nothing
  rw [parse, pretty, String.toList_ofList, Reader.run_of_takes taken]
  exact congrArg Except.ok (canonical_of_ordered j ordered)

end Json

end DbConsole
