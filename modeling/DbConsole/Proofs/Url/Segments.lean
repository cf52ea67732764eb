import DbConsole.Url.Parse
import Mathlib.Data.List.Induction

/-!
Segments below a base path. Percent-encoding lets none of its signs through and gives back the text when
it is decoded; what a base path puts before the segments stays as it is, and they stand behind it one by
one just where a URL leaves nothing of any of them out.
-/
set_option autoImplicit false

namespace DbConsole

namespace Text

theorem utf8_injective : Function.Injective utf8 := by
  intro cs ds same
  have encoded : cs.utf8Encode = ds.utf8Encode := by
    rw [List.utf8Encode, List.utf8Encode]
    exact congrArg List.toByteArray same
  have decoded := congrArg ByteArray.utf8Decode? encoded
  rw [List.utf8Decode?_utf8Encode, List.utf8Decode?_utf8Encode] at decoded
  exact congrArg Array.toList (Option.some.inj decoded)

/-- A text is its encoding, decoded. -/
theorem percentDecode_percentEncode_self {set : Char → Bool} (percent : set '%' = true)
    (cs : List Char) : percentDecode (percentEncode set cs) = utf8 cs := by
  have decoded := percentDecode_percentEncode percent cs []
  rwa [List.append_nil, percentDecode, List.append_nil] at decoded

/-- What an encoded text is made of. -/
theorem mem_percentEncode {set : Char → Bool} {cs : List Char} {d : Char}
    (member : d ∈ percentEncode set cs) :
    set d = false ∨ d = '%' ∨ ∃ n, n < 16 ∧ d = hexDigit n := by
  obtain ⟨c, _, within⟩ := List.mem_flatMap.mp member
  rw [percentChar] at within
  split at within
  · rename_i plain
    rw [List.mem_singleton.mp within]
    simp only [Bool.and_eq_true, Bool.not_eq_eq_eq_not, Bool.not_true] at plain
    exact Or.inl plain.2
  · obtain ⟨b, _, digit⟩ := List.mem_flatMap.mp within
    have high : b.toNat / 16 < 16 := by have := b.toNat_lt; omega
    have low : b.toNat % 16 < 16 := by omega
    simp only [percentByte, List.mem_cons, List.not_mem_nil, or_false] at digit
    rcases digit with rfl | rfl | rfl
    · exact Or.inr (Or.inl rfl)
    · exact Or.inr (Or.inr ⟨_, high, rfl⟩)
    · exact Or.inr (Or.inr ⟨_, low, rfl⟩)

theorem forall_hexDigit_ne {sign : Char} (apart : ∀ n ∈ List.range 16, hexDigit n ≠ sign) {n : Nat}
    (lt : n < 16) : hexDigit n ≠ sign :=
  apart n (List.mem_range.mpr lt)

/-- A sign of the set is not left, if it is none of those that encoding writes. -/
theorem notMem_percentEncode {set : Char → Bool} {sign : Char} (inSet : set sign = true)
    (notPercent : sign ≠ '%') (notDigit : ∀ n ∈ List.range 16, hexDigit n ≠ sign)
    (cs : List Char) : sign ∉ percentEncode set cs := by
  intro member
  rcases mem_percentEncode member with out | same | ⟨n, lt, same⟩
  · rw [inSet] at out
    cases out
  · exact notPercent same
  · exact forall_hexDigit_ne notDigit lt same.symm

/-- The first byte of a character is that of a dot only for the dot. -/
theorem exists_utf8EncodeChar_eq_cons (c : Char) :
    ∃ b bs, String.utf8EncodeChar c = b :: bs ∧ (b.toNat = 46 → c = '.') := by
  have plain (small : c.val.toNat ≤ 127) (dot : (UInt8.ofNat c.val.toNat).toNat = 46) :
      c = '.' := by
    rw [UInt8.toNat_ofNat', Nat.mod_eq_of_lt (by omega)] at dot
    exact Char.ext (UInt32.toNat_inj.mp dot)
  have beyond (n m : Nat) (large : 192 ≤ n + m) (lt : n + m < 256) :
      (UInt8.ofNat (n + m)).toNat = 46 → c = '.' := by
    rw [UInt8.toNat_ofNat', Nat.mod_eq_of_lt lt]
    omega
  rw [String.utf8EncodeChar]
  split
  · exact ⟨_, _, rfl, plain ‹_›⟩
  · split
    · exact ⟨_, _, rfl, beyond _ _ (by omega) (by omega)⟩
    · split
      · exact ⟨_, _, rfl, beyond _ _ (by omega) (by omega)⟩
      · exact ⟨_, _, rfl, beyond _ _ (by omega) (by omega)⟩

end Text

namespace Url

open Text

theorem plainDots_cons {c : Char} (notPercent : c ≠ '%') (rest : List Char) :
    plainDots (c :: rest) = c :: plainDots rest := by
  rw [plainDots]
  · rintro _ rfl
    exact absurd rfl notPercent
  · rintro _ rfl
    exact absurd rfl notPercent

/-- An encoded byte stands for a dot only if it is one. -/
theorem exists_plainDots_percentByte {b : UInt8} (notDot : b.toNat ≠ 46) (rest : List Char) :
    ∃ more, plainDots (percentByte b ++ rest) = '%' :: more := by
  have high : b.toNat / 16 < 16 := by have := b.toNat_lt; omega
  have low : b.toNat % 16 < 16 := by omega
  have two : ∀ n ∈ List.range 16, hexDigit n = '2' → n = 2 := by decide
  have capital : ∀ n ∈ List.range 16, hexDigit n = 'E' → n = 14 := by decide
  have small : ∀ n ∈ List.range 16, hexDigit n ≠ 'e' := by decide
  rw [percentByte, List.cons_append, List.cons_append, List.cons_append, List.nil_append]
  rw [plainDots]
  · exact ⟨_, rfl⟩
  · intro rest' _ same
    have second := (List.cons.inj (List.cons.inj same).2).1
    exact absurd second (small _ (List.mem_range.mpr low))
  · intro rest' _ same
    have first := two _ (List.mem_range.mpr high) (List.cons.inj same).1
    have second := capital _ (List.mem_range.mpr low) (List.cons.inj (List.cons.inj same).2).1
    omega

variable {set : Char → Bool} (percent : set '%' = true) (dot : set '.' = false)

include percent in
/-- Only a dot is encoded as what may be read as a dot. -/
theorem exists_plainDots_percentChar {c : Char} (notDot : c ≠ '.') (rest : List Char) :
    ∃ d more, plainDots (percentChar set c ++ rest) = d :: more ∧ d ≠ '.' := by
  rw [percentChar]
  split
  · have notPercent : c ≠ '%' := by
      rintro rfl
      simp_all
    exact ⟨c, plainDots rest, plainDots_cons notPercent rest, notDot⟩
  · obtain ⟨b, bs, bytes, isDot⟩ := exists_utf8EncodeChar_eq_cons c
    rw [bytes, List.flatMap_cons, List.append_assoc]
    obtain ⟨more, same⟩ := exists_plainDots_percentByte (fun is => notDot (isDot is))
      (bs.flatMap percentByte ++ rest)
    exact ⟨'%', more, same, by decide⟩

include dot in
theorem plainDots_percentEncode_dot (cs : List Char) :
    plainDots (percentEncode set ('.' :: cs)) = '.' :: plainDots (percentEncode set cs) := by
  have plain : percentChar set '.' = ['.'] := by
    rw [percentChar, dot]
    rfl
  rw [percentEncode, List.flatMap_cons, plain]
  exact plainDots_cons (by decide) _

include percent dot in
/-- An encoded text is read as dots only if the text is these dots. -/
theorem plainDots_percentEncode_eq_replicate_iff (n : Nat) (cs : List Char) :
    plainDots (percentEncode set cs) = List.replicate n '.' ↔ cs = List.replicate n '.' := by
  induction n generalizing cs with
  | zero =>
    cases cs with
    | nil => simp [percentEncode, plainDots]
    | cons c cs =>
      refine ⟨fun empty => ?_, fun empty => by cases empty⟩
      by_cases isDot : c = '.'
      · rw [isDot, plainDots_percentEncode_dot dot] at empty
        cases empty
      · obtain ⟨d, more, same, _⟩ := exists_plainDots_percentChar percent isDot
          (percentEncode set cs)
        rw [percentEncode, List.flatMap_cons, ← percentEncode, same] at empty
        cases empty
  | succ n ih =>
    cases cs with
    | nil => simp [percentEncode, plainDots, List.replicate_succ]
    | cons c cs =>
      by_cases isDot : c = '.'
      · rw [isDot, plainDots_percentEncode_dot dot, List.replicate_succ, List.cons_inj_right,
          List.cons_inj_right, ih]
      · obtain ⟨d, more, same, notDot⟩ := exists_plainDots_percentChar percent isDot
          (percentEncode set cs)
        rw [percentEncode, List.flatMap_cons, ← percentEncode, same, List.replicate_succ]
        simp [isDot, notDot]

theorem isUp_percentEncode_segmentSet (special : Bool) (cs : List Char) :
    isUp (percentEncode (segmentSet special) cs) = true ↔ cs = ['.', '.'] := by
  rw [isUp, beq_iff_eq]
  exact plainDots_percentEncode_eq_replicate_iff (by cases special <;> rfl)
    (by cases special <;> rfl) 2 cs

theorem isHere_percentEncode_segmentSet (special : Bool) (cs : List Char) :
    isHere (percentEncode (segmentSet special) cs) = true ↔ cs = ['.'] := by
  rw [isHere, beq_iff_eq]
  exact plainDots_percentEncode_eq_replicate_iff (by cases special <;> rfl)
    (by cases special <;> rfl) 1 cs

end Url

end DbConsole

namespace DbConsole.Url

/-- A URL leaves nothing of the segment out: it does not stand for a place that the path names
anyway, and it has no character that is skipped. -/
def IsWhole (segment : String) : Prop :=
  segment ≠ "." ∧ segment ≠ ".." ∧ ∀ c ∈ segment.toList, isSkipped c = false

-- The characters of the segment are looked at, not all that there are.
instance (segment : String) : Decidable (IsWhole segment) :=
  have := List.decidableBAll (isSkipped · = false) segment.toList
  inferInstanceAs (Decidable (_ ∧ _ ∧ _))

/-- What is left of a segment when the characters that are skipped are gone. -/
def unskipped (segment : String) : List Char :=
  segment.toList.filter (!isSkipped ·)

/-- The segments before one that is added: the path of a bare slash has none. -/
def opened (segments : List String) : List String :=
  if segments = [""] then [] else segments

/-- The segments that a base path puts before those that are added to it. -/
def ground (list : List String) : List String :=
  opened (withoutOpenEnd list)

theorem settled_false (parents : List String) (segment : List Char) :
    settled false parents segment = String.ofList segment := by
  unfold settled
  split <;> simp

/-- Where an added segment leads, by what is left of it. -/
theorem pushSegment_cases (special : Bool) (segments : List String) (segment : String) :
    ((segment = "." ∨ segment = "..") ∧ pushSegment special false segments segment = segments) ∨
    (unskipped segment = ['.', '.'] ∧
      pushSegment special false segments segment = above (opened segments) ++ [""]) ∨
    (unskipped segment = ['.'] ∧
      pushSegment special false segments segment = opened segments ++ [""]) ∨
    (¬ (segment = "." ∨ segment = "..") ∧
      pushSegment special false segments segment =
        opened segments ++ [encoded (segmentSet special) (unskipped segment)]) := by
  rw [pushSegment]
  split
  · exact Or.inl ⟨‹_›, rfl⟩
  · rename_i noDots
    refine Or.inr ?_
    change _ ∧ close false (opened segments) _ = _ ∨ _ ∧ close false (opened segments) _ = _ ∨
      _ ∧ close false (opened segments) _ = _
    rw [close, settled_false]
    split
    · exact Or.inl ⟨(isUp_percentEncode_segmentSet special _).mp ‹_›, rfl⟩
    · split
      · exact Or.inr (Or.inl ⟨(isHere_percentEncode_segmentSet special _).mp ‹_›, rfl⟩)
      · exact Or.inr (Or.inr ⟨noDots, rfl⟩)

theorem unskipped_of_isWhole {segment : String} (whole : IsWhole segment) :
    unskipped segment = segment.toList :=
  List.filter_eq_self.mpr fun c member => by rw [whole.2.2 c member]; rfl

theorem pushSegment_of_isWhole (special : Bool) (segments : List String) {segment : String}
    (whole : IsWhole segment) :
    pushSegment special false segments segment =
      opened segments ++ [encoded (segmentSet special) segment.toList] := by
  have same := unskipped_of_isWhole whole
  have dots (cs : List Char) (is : unskipped segment = cs) : segment = String.ofList cs := by
    rw [← is, same, String.ofList_toList]
  rcases pushSegment_cases special segments segment with
    ⟨here | up, _⟩ | ⟨up, _⟩ | ⟨here, _⟩ | ⟨_, pushed⟩
  · exact absurd here whole.1
  · exact absurd up whole.2.1
  · exact absurd (dots _ up) whole.2.1
  · exact absurd (dots _ here) whole.1
  · rw [pushed, same]

theorem length_opened_le (segments : List String) : (opened segments).length ≤ segments.length := by
  unfold opened
  split <;> simp

theorem length_above_le (segments : List String) : (above segments).length ≤ segments.length := by
  unfold above
  split
  · split <;> simp
  · simp

theorem length_pushSegment_le (special : Bool) (segments : List String) (segment : String) :
    (pushSegment special false segments segment).length ≤ segments.length + 1 := by
  have gone := length_opened_le segments
  have above := length_above_le (opened segments)
  rcases pushSegment_cases special segments segment with
    ⟨_, pushed⟩ | ⟨_, pushed⟩ | ⟨_, pushed⟩ | ⟨_, pushed⟩ <;> rw [pushed]
  · omega
  all_goals
    rw [List.length_append, List.length_singleton]
    omega

theorem length_foldl_pushSegment_le (special : Bool) (segments added : List String) :
    (added.foldl (pushSegment special false) segments).length ≤ segments.length + added.length := by
  induction added generalizing segments with
  | nil => simp
  | cons segment rest ih =>
    have pushed := length_pushSegment_le special segments segment
    have rest := ih (pushSegment special false segments segment)
    simp only [List.foldl_cons, List.length_cons]
    omega

/-! ### What is decoded -/

/-- The bytes that a text stands for. -/
def bytesOf (text : String) : List UInt8 :=
  Text.utf8 text.toList

theorem bytesOf_injective : Function.Injective bytesOf :=
  fun _ _ same => String.toList_injective (Text.utf8_injective same)

/-- The bytes that a segment of a path stands for. -/
def decoded (segment : String) : List UInt8 :=
  Text.percentDecode segment.toList

@[simp] theorem decoded_encoded_segmentSet (special : Bool) (cs : List Char) :
    decoded (encoded (segmentSet special) cs) = Text.utf8 cs := by
  rw [decoded, encoded, String.toList_ofList]
  exact Text.percentDecode_percentEncode_self (by cases special <;> rfl) cs

theorem decoded_empty : decoded "" = [] := by
  rw [decoded, String.toList_empty, Text.percentDecode]

theorem isWhole_of_unskipped_eq {segment : String} (noDots : ¬ (segment = "." ∨ segment = ".."))
    (same : unskipped segment = segment.toList) : IsWhole segment := by
  refine ⟨fun is => noDots (Or.inl is), fun is => noDots (Or.inr is), fun c member => ?_⟩
  simpa using List.filter_eq_self.mp same c member

/-- What ends a path in the bytes of an added segment has been added whole. -/
theorem isWhole_of_decoded_last {special : Bool} {segments before : List String}
    {segment last : String} (noDots : ¬ (segment = "." ∨ segment = ".."))
    (pushed : pushSegment special false segments segment = before ++ [last])
    (same : decoded last = bytesOf segment) : IsWhole segment ∧ before = opened segments := by
  have skipped (dots : List Char) (is : unskipped segment = dots) (some : dots ≠ []) :
      last ≠ "" := by
    rintro rfl
    rw [decoded_empty, bytesOf] at same
    have none : segment.toList = [] := Text.utf8_injective same.symm
    rw [unskipped, none] at is
    exact some is.symm
  rcases pushSegment_cases special segments segment with
    ⟨dots, _⟩ | ⟨up, here⟩ | ⟨at_, here⟩ | ⟨_, here⟩
  · exact absurd dots noDots
  all_goals
    rw [here] at pushed
    obtain ⟨rfl, tail⟩ := List.append_inj' pushed rfl
    have tail := (List.cons.inj tail).1
  · exact absurd tail.symm (skipped _ up (by simp))
  · exact absurd tail.symm (skipped _ at_ (by simp))
  · rw [← tail, decoded_encoded_segmentSet] at same
    exact ⟨isWhole_of_unskipped_eq noDots (Text.utf8_injective same), rfl⟩

/-- Segments that stand one by one behind what was there are whole. -/
theorem isWhole_of_decoded {special : Bool} {segments added : List String}
    (same : ((added.foldl (pushSegment special false) segments).drop segments.length).map decoded =
      added.map bytesOf) : ∀ segment ∈ added, IsWhole segment := by
  induction added using List.reverseRecOn with
  | nil => simp
  | append_singleton init last ih =>
    rw [List.foldl_append, List.foldl_cons, List.foldl_nil] at same
    have before := length_foldl_pushSegment_le special segments init
    set parents := init.foldl (pushSegment special false) segments
    have many := congrArg List.length same
    simp only [List.length_map, List.length_drop, List.length_append, List.length_singleton] at many
    have noDots : ¬ (last = "." ∨ last = "..") := by
      intro dots
      rw [pushSegment, if_pos dots] at many
      omega
    obtain empty | ⟨kept, end_, pushed⟩ :=
      List.eq_nil_or_concat (pushSegment special false parents last)
    · rw [empty, List.length_nil] at many
      omega
    · rw [List.concat_eq_append] at pushed
      rw [pushed, List.length_append, List.length_singleton] at many
      rw [pushed, List.drop_append_of_le_length (by omega), List.map_append,
        List.map_append] at same
      obtain ⟨front, back⟩ := List.append_inj' same rfl
      obtain ⟨whole, rfl⟩ := isWhole_of_decoded_last noDots pushed (List.cons.inj back).1
      rw [opened] at front many
      split at front
      · rename_i bare
        rw [if_pos bare, List.length_nil] at many
        have none : init = [] := List.length_eq_zero_iff.mp (by omega)
        simpa [none] using whole
      · intro segment member
        rcases List.mem_append.mp member with early | late
        · exact ih front segment early
        · rw [List.mem_singleton.mp late]
          exact whole

/-- Whole segments stand one by one behind what was there. -/
theorem foldl_pushSegment_of_isWhole (special : Bool) {segments added : List String}
    (some : segments ≠ []) (notBare : segments ≠ [""])
    (whole : ∀ segment ∈ added, IsWhole segment) :
    added.foldl (pushSegment special false) segments =
      segments ++ added.map fun segment => encoded (segmentSet special) segment.toList := by
  induction added generalizing segments with
  | nil => simp
  | cons segment rest ih =>
    rw [List.foldl_cons, pushSegment_of_isWhole special segments (whole segment (by simp)), opened,
      if_neg notBare, ih (by simp) ?_ fun s member => whole s (by simp [member])]
    · simp
    · cases segments with
      | nil => exact absurd rfl some
      | cons s segments => simp

section Below

variable {special : Bool} {list rest : List String} {first : String}

theorem extendPath_cons (whole : IsWhole first) :
    extendPath special false list (first :: rest) = rest.foldl (pushSegment special false)
      (ground list ++ [encoded (segmentSet special) first.toList]) := by
  rw [extendPath, List.foldl_cons, pushSegment_of_isWhole special _ whole]
  rfl

theorem encoded_ne_empty {text : String} (some : text ≠ "") :
    encoded (segmentSet special) text.toList ≠ "" := by
  intro empty
  have bytes := decoded_encoded_segmentSet special text.toList
  rw [empty, decoded_empty] at bytes
  exact some (bytesOf_injective bytes.symm)

/-- The segments that are added to a base path, the first of them a whole one, stand below it one by
one just if all are whole. -/
theorem decoded_extendPath_iff (whole : IsWhole first) (some : first ≠ "") :
    ((extendPath special false list (first :: rest)).drop (ground list).length).map decoded =
      (first :: rest).map bytesOf ↔ ∀ segment ∈ rest, IsWhole segment := by
  rw [extendPath_cons whole]
  constructor
  · intro same
    have tail := congrArg List.tail same
    rw [List.map_cons, List.tail_cons, ← List.map_tail, List.tail_drop] at tail
    have behind : (ground list ++ [encoded (segmentSet special) first.toList]).length =
        (ground list).length + 1 := by simp
    rw [← behind] at tail
    exact isWhole_of_decoded tail
  · intro all
    have notBare : ground list ++ [encoded (segmentSet special) first.toList] ≠ [""] := by
      intro bare
      have bare' : ground list ++ [encoded (segmentSet special) first.toList] = [] ++ [""] := bare
      exact encoded_ne_empty some (List.cons.inj (List.append_inj' bare' rfl).2).1
    rw [foldl_pushSegment_of_isWhole special (by simp) notBare all]
    simp [bytesOf, Function.comp_def]

end Below

/-! ### Signs -/

/-- Nothing in the segment ends it. -/
def IsClosed (segment : String) : Prop :=
  '/' ∉ segment.toList ∧ '?' ∉ segment.toList

theorem isClosed_encoded (special : Bool) (cs : List Char) :
    IsClosed (encoded (segmentSet special) cs) := by
  rw [IsClosed, encoded, String.toList_ofList]
  constructor
  · exact Text.notMem_percentEncode (by cases special <;> rfl) (by decide) (by decide) cs
  · exact Text.notMem_percentEncode (by cases special <;> rfl) (by decide) (by decide) cs

/-- The place above what stands behind others is not in front of it. -/
theorem exists_above_append {front kept : List String} (some : kept ≠ []) :
    ∃ left, above (front ++ kept) = front ++ left ∧ ∀ segment ∈ left, segment ∈ kept := by
  unfold above
  split
  · split
    · exact ⟨kept, rfl, fun _ => id⟩
    · exact ⟨kept.dropLast, List.dropLast_append_of_ne_nil some, fun _ member =>
        List.dropLast_subset kept member⟩
  · rename_i none
    exact absurd (List.append_eq_nil_iff.mp (List.getLast?_eq_none_iff.mp none)).2 some

/-- What is added stays below the base path. -/
theorem exists_pushSegment (special : Bool) {front below : List String} (some : below ≠ [])
    (closed : ∀ segment ∈ below, IsClosed segment) (segment : String) :
    ∃ below', below' ≠ [] ∧ (∀ segment ∈ below', IsClosed segment) ∧
      pushSegment special false (front ++ below) segment = front ++ below' := by
  have ending (kept : List String) (closed : ∀ segment ∈ kept, IsClosed segment) (text : String)
      (ends : IsClosed text) : ∃ below', below' ≠ [] ∧ (∀ segment ∈ below', IsClosed segment) ∧
        front ++ kept ++ [text] = front ++ below' := by
    refine ⟨kept ++ [text], by simp, fun segment member => ?_, List.append_assoc _ _ _⟩
    rcases List.mem_append.mp member with early | late
    · exact closed segment early
    · rw [List.mem_singleton.mp late]
      exact ends
  have empty : IsClosed "" := by simp [IsClosed]
  -- A lone empty segment gives way only where nothing stands before it.
  obtain ⟨kept, same, closed', above_⟩ : ∃ kept, opened (front ++ below) = front ++ kept ∧
      (∀ segment ∈ kept, IsClosed segment) ∧
        ∃ left, above (front ++ kept) = front ++ left ∧ ∀ segment ∈ left, segment ∈ kept := by
    unfold opened
    split
    · rename_i bare
      cases front with
      | nil => exact ⟨[], rfl, by simp, [], rfl, by simp⟩
      | cons s front =>
        have none := (List.cons.inj bare).2
        exact absurd (List.append_eq_nil_iff.mp none).2 some
    · exact ⟨below, rfl, closed, exists_above_append some⟩
  rcases pushSegment_cases special (front ++ below) segment with
    ⟨_, pushed⟩ | ⟨_, pushed⟩ | ⟨_, pushed⟩ | ⟨_, pushed⟩ <;> rw [pushed]
  · exact ⟨below, some, closed, rfl⟩
  · obtain ⟨left, upward, among⟩ := above_
    rw [same, upward]
    exact ending left (fun segment member => closed' segment (among segment member)) "" empty
  · rw [same]
    exact ending kept closed' "" empty
  · rw [same]
    exact ending kept closed' _ (isClosed_encoded special _)

/-- Segments that are added to a base path stand below it, the first of them being whole. -/
theorem exists_extendPath (special : Bool) (list rest : List String) {first : String}
    (whole : IsWhole first) :
    ∃ below, below ≠ [] ∧ (∀ segment ∈ below, IsClosed segment) ∧
      extendPath special false list (first :: rest) = ground list ++ below := by
  rw [extendPath_cons whole]
  have start : ∃ below, below ≠ [] ∧ (∀ segment ∈ below, IsClosed segment) ∧
      ground list ++ [encoded (segmentSet special) first.toList] = ground list ++ below :=
    ⟨_, by simp, by simpa using isClosed_encoded special first.toList, rfl⟩
  generalize ground list ++ [encoded (segmentSet special) first.toList] = segments at start
  induction rest generalizing segments with
  | nil => exact start
  | cons segment rest ih =>
    obtain ⟨below, some, closed, rfl⟩ := start
    exact ih _ (exists_pushSegment special some closed segment)

/-! ### Written paths -/

/-- The text of a path. -/
def slashed (segments : List String) : List Char :=
  segments.flatMap fun segment => '/' :: segment.toList

theorem splitOn_append_sep (sep : Char) {piece : List Char} (without : sep ∉ piece)
    (rest : List Char) :
    Host.splitOn sep (piece ++ sep :: rest) = piece :: Host.splitOn sep rest := by
  induction piece with
  | nil => simp [Host.splitOn]
  | cons c piece ih =>
    rw [List.mem_cons, not_or] at without
    have tail := ih without.2
    rw [Host.splitOn] at tail ⊢
    rw [List.cons_append, List.foldr_cons, tail, if_neg (Ne.symm without.1)]

theorem splitOn_self (sep : Char) {piece : List Char} (without : sep ∉ piece) :
    Host.splitOn sep piece = [piece] := by
  induction piece with
  | nil => rfl
  | cons c piece ih =>
    rw [List.mem_cons, not_or] at without
    have tail := ih without.2
    rw [Host.splitOn] at tail ⊢
    rw [List.foldr_cons, tail, if_neg (Ne.symm without.1)]

/-- A path that is split at its slashes gives its segments back. -/
theorem splitOn_slashed {first : String} {rest : List String}
    (closed : ∀ segment ∈ first :: rest, IsClosed segment) :
    Host.splitOn '/' (first.toList ++ slashed rest) = (first :: rest).map String.toList := by
  induction rest generalizing first with
  | nil =>
    rw [slashed, List.flatMap_nil, List.append_nil]
    exact splitOn_self '/' (closed first (by simp)).1
  | cons next rest ih =>
    have tail : Host.splitOn '/' (next.toList ++ slashed rest) = (next :: rest).map String.toList :=
      ih fun segment member => closed segment (.tail first member)
    rw [slashed, List.flatMap_cons, List.cons_append,
      splitOn_append_sep '/' (closed first (by simp)).1]
    exact congrArg _ tail

end DbConsole.Url
