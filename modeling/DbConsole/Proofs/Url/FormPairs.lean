import DbConsole.Proofs.Url.Segments

/-!
Names and values in the query of a URL. A query that is written from pairs is read as just these pairs,
whatever characters they have.
-/
set_option autoImplicit false

namespace DbConsole

/-! ### Names and values -/

namespace Text

/-- The characters that a form writes as bytes: all but the plain ones and the blank. -/
def formSet (c : Char) : Bool :=
  !isFormPlain c && c != ' '

def blankToPlus (c : Char) : Char :=
  if c = ' ' then '+' else c

def plusToBlank (c : Char) : Char :=
  if c = '+' then ' ' else c

/-- The text that a name or value stands for; none where its bytes are those of no text. -/
def formDecode? (cs : List Char) : Option (List Char) :=
  Host.textOfBytes? (percentDecode (cs.map plusToBlank))

theorem map_blankToPlus_percentByte (b : UInt8) :
    (percentByte b).map blankToPlus = percentByte b := by
  have high : b.toNat / 16 < 16 := by have := b.toNat_lt; omega
  have low : b.toNat % 16 < 16 := by omega
  have digits : ∀ n ∈ List.range 16, blankToPlus (hexDigit n) = hexDigit n := by decide
  simp only [percentByte, List.map_cons, List.map_nil, digits _ (List.mem_range.mpr high),
    digits _ (List.mem_range.mpr low)]
  rfl

theorem formEncode_char (c : Char) :
    (if c = ' ' then ['+'] else percentChar (fun c => !isFormPlain c) c) =
      (percentChar formSet c).map blankToPlus := by
  by_cases blank : c = ' '
  · subst blank
    decide
  · have set : formSet c = !isFormPlain c := by simp [formSet, blank]
    rw [if_neg blank, percentChar, percentChar, set]
    split
    · simp [blankToPlus, blank]
    · rw [List.map_flatMap]
      exact congrArg (List.flatMap · _) (funext fun b => (map_blankToPlus_percentByte b).symm)

/-- A form writes plus signs for the blanks that are left by the encoding of all else. -/
theorem formEncode_eq (cs : List Char) :
    formEncode cs = (percentEncode formSet cs).map blankToPlus := by
  rw [formEncode, percentEncode, List.map_flatMap]
  exact congrArg (List.flatMap · cs) (funext formEncode_char)

theorem plus_notMem_percentEncode (cs : List Char) : '+' ∉ percentEncode formSet cs :=
  notMem_percentEncode (by decide) (by decide) (by decide) cs

theorem map_plusToBlank_formEncode (cs : List Char) :
    (formEncode cs).map plusToBlank = percentEncode formSet cs := by
  have back : ∀ c ∈ percentEncode formSet cs, (plusToBlank ∘ blankToPlus) c = id c := by
    intro c member
    have notPlus : c ≠ '+' := fun same => plus_notMem_percentEncode cs (same ▸ member)
    by_cases blank : c = ' '
    · simp [blank, blankToPlus, plusToBlank]
    · simp [blank, blankToPlus, plusToBlank, notPlus]
  rw [formEncode_eq, List.map_map, List.map_congr_left back, List.map_id]

theorem textOfBytes?_utf8 (cs : List Char) : Host.textOfBytes? (utf8 cs) = some cs := by
  have bytes : (⟨(utf8 cs).toArray⟩ : ByteArray) = cs.utf8Encode :=
    ByteArray.ext (by rw [List.utf8Encode, List.data_toByteArray]; rfl)
  have decoded : String.fromUTF8? cs.utf8Encode = some (String.ofList cs) :=
    dif_pos ByteArray.isValidUTF8_utf8Encode
  rw [Host.textOfBytes?, bytes, decoded, Option.map_some, String.toList_ofList]

/-- Names and values are read as they were before they were written. -/
theorem formDecode?_formEncode (cs : List Char) : formDecode? (formEncode cs) = some cs := by
  rw [formDecode?, map_plusToBlank_formEncode, percentDecode_percentEncode_self (by decide),
    textOfBytes?_utf8]

/-- A sign that is encoded does not come back as a plus. -/
theorem notMem_formEncode {sign : Char} (inSet : formSet sign = true) (notPercent : sign ≠ '%')
    (notDigit : ∀ n ∈ List.range 16, hexDigit n ≠ sign) (notPlus : sign ≠ '+') (cs : List Char) :
    sign ∉ formEncode cs := by
  rw [formEncode_eq]
  intro member
  have ⟨c, within, written⟩ := List.mem_map.mp member
  by_cases blank : c = ' '
  · rw [blankToPlus, if_pos blank] at written
    exact notPlus written.symm
  · rw [blankToPlus, if_neg blank] at written
    exact notMem_percentEncode inSet notPercent notDigit cs (written ▸ within)

end Text

/-! ### Pairs -/

namespace Url

/-- The name before the first equals sign and the value behind it, which is empty if there is none. -/
def formPair? (part : List Char) : Option (String × String) := do
  let name := part.takeWhile (· != '=')
  let value := (part.drop name.length).drop 1
  return (String.ofList (← Text.formDecode? name), String.ofList (← Text.formDecode? value))

/-- The pairs of a query, in order; parts between ampersands that are empty do not count. -/
def formPairs? (query : String) : Option (List (String × String)) :=
  ((query.toList.splitOn '&').filter (!·.isEmpty)).mapM formPair?

/-- The pairs of the URL's query; a URL without a query has none. -/
def queryPairs? (u : Url) : Option (List (String × String)) :=
  formPairs? (u.query.getD "")

theorem toList_formPair (p : String × String) :
    (formPair p).toList = Text.formEncode p.1.toList ++ '=' :: Text.formEncode p.2.toList := by
  simp [formPair]

theorem formPair?_formPair (p : String × String) : formPair? (formPair p).toList = some p := by
  have absent : '=' ∉ Text.formEncode p.1.toList :=
    Text.notMem_formEncode (by decide) (by decide) (by decide) (by decide) _
  have name : (formPair p).toList.takeWhile (· != '=') = Text.formEncode p.1.toList := by
    rw [toList_formPair, List.takeWhile_append_of_pos fun c member =>
      bne_iff_ne.mpr (ne_of_mem_of_not_mem member absent)]
    simp
  have value : ((formPair p).toList.drop (Text.formEncode p.1.toList).length).drop 1 =
      Text.formEncode p.2.toList := by
    rw [toList_formPair, List.drop_left]
    rfl
  simp [formPair?, name, value, Text.formDecode?_formEncode]

theorem ampersand_notMem_formPair (p : String × String) : '&' ∉ (formPair p).toList := by
  have absent (cs : List Char) : '&' ∉ Text.formEncode cs :=
    Text.notMem_formEncode (by decide) (by decide) (by decide) (by decide) cs
  simp [toList_formPair, absent]

theorem mapM_formPair? (pairs : List (String × String)) :
    ((pairs.map formPair).map String.toList).mapM formPair? = some pairs := by
  have each : (formPair? ∘ String.toList ∘ formPair : String × String → _) =
      fun p => pure (id p) := funext formPair?_formPair
  rw [List.map_map, List.mapM_map, each, List.mapM_pure, List.map_id]
  rfl

/-- The pairs that a query is written from are read from it. -/
theorem formPairs?_intercalate (pairs : List (String × String)) :
    formPairs? (String.intercalate "&" (pairs.map formPair)) = some pairs := by
  by_cases none : pairs = []
  · rw [none]
    rfl
  · have parts : (String.intercalate "&" (pairs.map formPair)).toList.splitOn '&' =
        (pairs.map formPair).map String.toList := by
      rw [String.toList_intercalate]
      refine List.splitOn_intercalate '&' (fun part member => ?_) (by simpa using none)
      rw [List.map_map] at member
      have ⟨q, _, same⟩ := List.mem_map.mp member
      rw [← same]
      exact ampersand_notMem_formPair q
    have filled : ∀ part ∈ (pairs.map formPair).map String.toList, (!part.isEmpty) = true := by
      intro part member
      rw [List.map_map] at member
      have ⟨q, _, same⟩ := List.mem_map.mp member
      rw [← same]
      simp [toList_formPair]
    rw [formPairs?, parts, List.filter_eq_self.mpr filled, mapM_formPair?]

/-- Below an address without a query the pairs that are added are all that is read. -/
theorem queryPairs?_addPairs {u : Url} (bare : u.query.getD "" = "") (pairs : List (String × String)) :
    (u.addPairs pairs).queryPairs? = some pairs := by
  unfold addPairs
  split
  case isTrue none =>
    rw [List.isEmpty_iff.mp none, queryPairs?, bare]
    rfl
  case isFalse =>
    dsimp only
    split
    case h_1 q given =>
      have empty : q = "" := by simpa [given] using bare
      rw [empty]
      exact formPairs?_intercalate pairs
    case h_2 => exact formPairs?_intercalate pairs

end Url

end DbConsole
