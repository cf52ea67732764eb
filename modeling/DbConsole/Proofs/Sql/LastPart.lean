import DbConsole.Sql.Batch
import Mathlib.Data.List.DropRight

/-!
What is taken for the name of a table. A name is printed, cut at its last point and freed of the quotes at
its ends, which gives the text of its last part back just where that text neither holds a point nor begins
or ends with a quote, and is printed as it is between quotes that are cut off again.
-/
set_option autoImplicit false

namespace DbConsole.Sql

namespace Name

/-! ### Quotes at the ends -/

/-- The characters without the quotes at both ends. -/
def trimmed (cs : List Char) : List Char :=
  ((cs.dropWhile isQuote).reverse.dropWhile isQuote).reverse

theorem bare_eq_trimmed (n : Name) : n.bare = String.ofList (trimmed (afterLastPoint n.render)) :=
  rfl

/-- No quote stands at either end. -/
def bareEnds (cs : List Char) : Bool :=
  !cs.head?.any isQuote && !cs.getLast?.any isQuote

theorem bareEnds_iff {cs : List Char} :
    bareEnds cs = true ↔ cs.dropWhile isQuote = cs ∧ cs.rdropWhile isQuote = cs := by
  cases cs with
  | nil => simp [bareEnds]
  | cons c rest =>
    rw [List.rdropWhile_eq_self_iff, List.dropWhile_eq_self_iff]
    simp [bareEnds, List.getLast?_eq_some_getLast]

theorem trimmed_of_bareEnds {cs : List Char} (ends : bareEnds cs) : trimmed cs = cs := by
  obtain ⟨front, back⟩ := bareEnds_iff.mp ends
  rw [trimmed, front]
  exact back

theorem bareEnds_trimmed (cs : List Char) : bareEnds (trimmed cs) := by
  refine bareEnds_iff.mpr ⟨?_, List.rdropWhile_idempotent _ _⟩
  have front := List.rdropWhile_prefix isQuote (cs.dropWhile isQuote)
  change (trimmed cs) <+: _ at front
  cases kept : trimmed cs with
  | nil => rfl
  | cons c rest =>
    rw [kept] at front
    obtain ⟨more, whole⟩ := front
    have first := List.dropWhile_eq_self_iff.mp (List.dropWhile_idempotent isQuote cs)
    rw [List.dropWhile_eq_self_iff]
    simpa [← whole] using first

/-- What is left between quotes is what would be left without them. -/
theorem trimmed_between (opening closing : Char) (hopen : isQuote opening) (hclose : isQuote closing)
    (cs : List Char) : trimmed (opening :: (cs ++ [closing])) = trimmed cs := by
  have front : (opening :: (cs ++ [closing])).dropWhile isQuote = (cs ++ [closing]).dropWhile isQuote :=
    List.dropWhile_cons_of_pos hopen
  rw [trimmed, front, List.dropWhile_append]
  split
  case isTrue none =>
    rw [List.isEmpty_iff] at none
    simp [trimmed, none, hclose]
  case isFalse => simp [trimmed, hclose]

theorem mem_of_mem_trimmed {cs : List Char} {c : Char} (member : c ∈ trimmed cs) : c ∈ cs := by
  rw [trimmed, List.mem_reverse] at member
  have inner := (List.dropWhile_suffix isQuote).subset member
  exact (List.dropWhile_suffix isQuote).subset (List.mem_reverse.mp inner)

/-! ### The last point -/

theorem afterLastPoint_behind (front cs : List Char) :
    afterLastPoint (front ++ '.' :: cs) = afterLastPoint cs := by
  rw [afterLastPoint, afterLastPoint, List.reverse_append, List.reverse_cons, List.append_assoc,
    List.takeWhile_append]
  split
  case isTrue whole => simp [(List.takeWhile_prefix _).eq_of_length whole]
  case isFalse => rfl

theorem afterLastPoint_of_none {cs : List Char} (none : '.' ∉ cs) : afterLastPoint cs = cs := by
  have whole : cs.reverse.takeWhile (· != '.') = cs.reverse :=
    List.takeWhile_eq_self_iff.mpr fun c member => by
      rw [List.mem_reverse] at member
      exact bne_iff_ne.mpr (ne_of_mem_of_not_mem member none)
  rw [afterLastPoint, whole, List.reverse_reverse]

theorem point_not_mem_afterLastPoint (cs : List Char) : '.' ∉ afterLastPoint cs := by
  intro member
  rw [afterLastPoint, List.mem_reverse] at member
  simpa using List.mem_takeWhile_imp member

/-- Of a name only the last part counts. -/
theorem afterLastPoint_render (outer : Name) (i : Ident) :
    afterLastPoint (render (outer ++ [i])) = afterLastPoint i.render := by
  induction outer with
  | nil => simp [render]
  | cons j outer ih =>
    have split : render (j :: outer ++ [i]) = j.render ++ '.' :: render (outer ++ [i]) := by
      cases outer <;> simp [render, List.intercalate]
    rw [split, afterLastPoint_behind, ih]

theorem point_not_mem_bare (n : Name) : '.' ∉ n.bare.toList := by
  rw [bare_eq_trimmed, String.toList_ofList]
  exact fun member => point_not_mem_afterLastPoint _ (mem_of_mem_trimmed member)

end Name

namespace Ident

/-! ### Quotes written twice -/

theorem mem_doubled {quote prev c : Char} {cs : List Char} :
    c ∈ doubled quote prev cs ↔ c ∈ cs := by
  fun_induction doubled quote prev cs <;> simp_all

theorem length_le_doubled (quote prev : Char) (cs : List Char) :
    cs.length ≤ (doubled quote prev cs).length := by
  fun_induction doubled quote prev cs <;> grind

theorem head?_doubled (quote prev : Char) (cs : List Char) :
    (doubled quote prev cs).head? = cs.head? := by
  fun_induction doubled quote prev cs <;> simp_all

theorem getLast?_doubled (quote prev : Char) (cs : List Char) :
    (doubled quote prev cs).getLast? = cs.getLast? := by
  fun_induction doubled quote prev cs <;> simp_all [List.getLast?_cons]

theorem trimmed_doubled_eq_iff {quote prev : Char} {cs : List Char} :
    Name.trimmed (doubled quote prev cs) = cs ↔ Name.bareEnds cs ∧ doubled quote prev cs = cs := by
  constructor
  · intro same
    have ends : Name.bareEnds cs := same ▸ Name.bareEnds_trimmed _
    -- The text has the ends of the doubled one, so that nothing has been cut off.
    have whole : Name.bareEnds (doubled quote prev cs) := by
      rwa [Name.bareEnds, head?_doubled, getLast?_doubled]
    exact ⟨ends, (Name.trimmed_of_bareEnds whole).symm.trans same⟩
  · rintro ⟨ends, same⟩
    rw [same, Name.trimmed_of_bareEnds ends]

/-! ### The text of the last part -/

/-- The text holds no point, neither begins nor ends with a quote, and stands as it is between quotes
that are cut off, if it stands between any. -/
def isPlain (i : Ident) : Bool :=
  let cs := i.text.toList
  !cs.contains '.' && Name.bareEnds cs &&
    match i.quote with
    | none => true
    | some '[' => true
    | some q => Name.isQuote q && doubled q (Char.ofNat 0) cs == cs

end Ident

/-- The quotes between which a part of a name may stand; it needs none. A plain string may be such a
part too. -/
def Dialect.quotes (d : Dialect) : Option Char → Bool
  | none => true
  | some c => d.opensName c || c == '"' || c == '\''

theorem Dialect.eq_of_opensName {d : Dialect} {c : Char} (opens : d.opensName c) :
    c = '"' ∨ c = Char.ofNat 0x60 ∨ c = '[' := by
  have back (h : c.toNat = 0x60) : c = Char.ofNat 0x60 := by rw [← h, Char.ofNat_toNat]
  cases d <;> simp [opensName] at opens <;> grind

theorem Dialect.eq_of_quotes {d : Dialect} {quote : Option Char} (allowed : d.quotes quote) :
    quote = none ∨ quote = some '[' ∨ quote = some '\'' ∨
      quote = some '"' ∨ quote = some (Char.ofNat 0x60) := by
  cases quote with
  | none => exact .inl rfl
  | some c =>
    simp only [quotes, Bool.or_eq_true, beq_iff_eq] at allowed
    grind [Dialect.eq_of_opensName]

namespace Name

theorem trimmed_eq_self_iff {cs : List Char} : trimmed cs = cs ↔ bareEnds cs :=
  ⟨fun same => same ▸ bareEnds_trimmed cs, trimmed_of_bareEnds⟩

/-- Between quotes that are none for `isQuote`, a text keeps them. -/
theorem trimmed_between_ne (quote : Char) (other : isQuote quote = false) (cs inner : List Char)
    (longer : cs.length ≤ inner.length) : trimmed (quote :: (inner ++ [quote])) ≠ cs := by
  have ends : bareEnds (quote :: (inner ++ [quote])) := by
    simp [bareEnds, other, List.getLast?_cons]
  intro same
  rw [trimmed_of_bareEnds ends] at same
  have := congrArg List.length same
  simp only [List.length_append, List.length_cons, List.length_nil] at this
  omega

/-- What a part without points leaves of its printed form. -/
theorem trimmed_render_eq_iff {d : Dialect} {i : Ident} (allowed : d.quotes i.quote)
    (whole : '.' ∉ i.text.toList) : trimmed i.render = i.text.toList ↔ i.isPlain := by
  obtain ⟨text, quote⟩ := i
  dsimp only at allowed whole
  obtain rfl | rfl | rfl | rfl | rfl := Dialect.eq_of_quotes allowed
  case inl => simp [Ident.render, Ident.isPlain, whole, trimmed_eq_self_iff]
  case inr.inl =>
    have cut := trimmed_between '[' ']' rfl rfl text.toList
    simp [Ident.render, Ident.isPlain, whole, cut, trimmed_eq_self_iff]
  case inr.inr.inl =>
    have kept := trimmed_between_ne '\'' rfl text.toList _
      (Ident.length_le_doubled '\'' (Char.ofNat 0) _)
    simpa [Ident.render, Ident.isPlain, isQuote] using kept
  case inr.inr.inr.inl =>
    have cut := trimmed_between '"' '"' rfl rfl
      (Ident.doubled '"' (Char.ofNat 0) text.toList)
    simp [Ident.render, Ident.isPlain, whole, cut, Ident.trimmed_doubled_eq_iff, isQuote]
  case inr.inr.inr.inr =>
    have cut := trimmed_between (Char.ofNat 0x60) (Char.ofNat 0x60) rfl rfl
      (Ident.doubled (Char.ofNat 0x60) (Char.ofNat 0) text.toList)
    simp [Ident.render, Ident.isPlain, whole, cut, Ident.trimmed_doubled_eq_iff, isQuote]

theorem point_mem_render {d : Dialect} {i : Ident} (allowed : d.quotes i.quote) :
    '.' ∈ i.render ↔ '.' ∈ i.text.toList := by
  obtain ⟨text, quote⟩ := i
  dsimp only at allowed ⊢
  obtain rfl | rfl | rfl | rfl | rfl := Dialect.eq_of_quotes allowed <;>
    simp [Ident.render, Ident.mem_doubled]

/-- A name gives the text of its last part just if that is plain. -/
theorem bare_eq_text_iff {d : Dialect} {i : Ident} (allowed : d.quotes i.quote) (outer : Name) :
    bare (outer ++ [i]) = i.text ↔ i.isPlain := by
  by_cases point : '.' ∈ i.text.toList
  · have cut : bare (outer ++ [i]) ≠ i.text := fun same =>
      point_not_mem_bare (outer ++ [i]) (same ▸ point)
    have odd : i.isPlain = false := by simp [Ident.isPlain, point]
    simp [cut, odd]
  · have whole : afterLastPoint (render (outer ++ [i])) = i.render := by
      rw [afterLastPoint_render, afterLastPoint_of_none ((point_mem_render allowed).not.mpr point)]
    rw [bare_eq_trimmed, whole, ← trimmed_render_eq_iff allowed point]
    constructor
    · rintro same
      rw [← same, String.toList_ofList]
    · intro same
      rw [same, String.ofList_toList]

end Name

end DbConsole.Sql
