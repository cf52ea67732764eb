import DbConsole.Json.Value
import DbConsole.Json.Writer

/-!
What a reader takes from the front of a text, wherever in the text that is. A string is read back from
its quoted text, whatever characters it holds.
-/
set_option autoImplicit false

namespace DbConsole.Json.Reader

variable {α β : Type}

/-- From `before` the reader takes the value and leaves `after`. -/
def Takes (r : Reader α) (before : List Char) (a : α) (after : List Char) : Prop :=
  ∀ p, ∃ p', r ⟨before, p⟩ = .ok (a, ⟨after, p'⟩)

variable {r : Reader α} {f : α → Reader β} {a : α} {b : β} {before between after : List Char}

namespace Takes

theorem pure (a : α) (cs : List Char) : Takes (pure a) cs a cs :=
  fun p => ⟨p, rfl⟩

theorem bind (first : Takes r before a between) (second : Takes (f a) between b after) :
    Takes (r >>= f) before b after := by
  intro p
  obtain ⟨p₁, read⟩ := first p
  obtain ⟨p₂, read'⟩ := second p₁
  refine ⟨p₂, ?_⟩
  rw [← read']
  change (r ⟨before, p⟩ >>= fun x => f x.1 x.2) = _
  rw [read]
  rfl

theorem peek (cs : List Char) : Takes peek cs cs.head? cs :=
  fun p => ⟨p, rfl⟩

theorem skip (c : Char) (cs : List Char) : Takes skip (c :: cs) () cs :=
  fun p => ⟨p.after c, rfl⟩

theorem length (cs : List Char) : Takes length cs cs.length cs :=
  fun p => ⟨p, rfl⟩

theorem takeWhile (test : Char → Bool) (cs : List Char) :
    Takes (takeWhile test) cs (cs.takeWhile test) (cs.dropWhile test) :=
  fun p => ⟨p.afterAll (cs.takeWhile test), rfl⟩

/-- Where no white space stands, nothing is passed over. -/
theorem next {c : Char} (solid : isSpace c = false) (cs : List Char) :
    Takes next (c :: cs) (some c) (c :: cs) := by
  have spaces := Takes.takeWhile isSpace (c :: cs)
  rw [List.takeWhile_cons_of_neg (by simp [solid]), List.dropWhile_cons_of_neg (by simp [solid])]
    at spaces
  exact spaces.bind (.peek _)

theorem word (cs rest : List Char) : Takes (word cs) (cs ++ rest) () rest := by
  induction cs with
  | nil => exact .pure () rest
  | cons c cs ih =>
    refine (Takes.peek _).bind ?_
    change Takes (if c = c then do Reader.skip; Reader.word cs else failNext .expectedIdent) _ () rest
    rw [if_pos rfl]
    exact (Takes.skip c _).bind ih

theorem ite_pos {p : Prop} [Decidable p] {r' : Reader α} (holds : p) (taken : Takes r before a after) :
    Takes (if p then r else r') before a after := by
  rwa [if_pos holds]

theorem ite_neg {p : Prop} [Decidable p] {r' : Reader α} (fails : ¬p) (taken : Takes r' before a after) :
    Takes (if p then r else r') before a after := by
  rwa [if_neg fails]

end Takes

/-- A reader that takes the whole text. -/
theorem run_of_takes (taken : Takes r before a []) : run r before = .ok a := by
  obtain ⟨p, read⟩ := taken ⟨1, 0⟩
  unfold run
  change (r ⟨before, ⟨1, 0⟩⟩ >>= fun x => finish x.2 >>= fun _ => Except.ok x.1) = _
  rw [read]
  rfl

/-! ### Strings -/

theorem hexValue?_hexDigit : ∀ n < 16, hexValue? (hexDigit n) = some n := by
  decide

theorem takes_fourHex {n : Nat} (small : n < 32) (tail : List Char) :
    Takes fourHex ('0' :: '0' :: hexDigit (n / 16) :: hexDigit (n % 16) :: tail) n tail := by
  intro p
  have high := hexValue?_hexDigit (n / 16) (by omega)
  have low := hexValue?_hexDigit (n % 16) (by omega)
  have zero : hexValue? '0' = some 0 := rfl
  have value : 0 * 4096 + 0 * 256 + n / 16 * 16 + n % 16 = n := by omega
  refine ⟨p.afterAll ['0', '0', hexDigit (n / 16), hexDigit (n % 16)], ?_⟩
  simp only [fourHex, zero, high, low, value]

theorem takes_unicodeEscape {c : Char} (small : c.toNat < 32) (tail : List Char) :
    Takes unicodeEscape
      ('0' :: '0' :: hexDigit (c.toNat / 16) :: hexDigit (c.toNat % 16) :: tail) c tail := by
  refine (takes_fourHex small tail).bind (.ite_neg (by omega) (.ite_pos (by omega) ?_))
  rw [Char.ofNat_toNat]
  exact .pure c tail

theorem eq_ofNat {c : Char} {n : Nat} (value : c.toNat = n) : Char.ofNat n = c := by
  rw [← value, Char.ofNat_toNat]

/-- A control character stands behind a backslash. -/
theorem takes_escape_control {c : Char} (small : c.toNat < 32) (quote : c ≠ '"')
    (backslash : c ≠ '\\') :
    ∃ e, escapeChar c = '\\' :: e ∧ ∀ tail, Takes escape (e ++ tail) c tail := by
  have marked (mark : Char) (tail : List Char) :
      Takes (do skip; return c) (mark :: tail) c tail :=
    (Takes.skip mark tail).bind (.pure c tail)
  unfold escapeChar
  rw [if_neg quote, if_neg backslash, if_pos small]
  split
  case isTrue same =>
    subst same
    exact ⟨_, rfl, fun tail => (Takes.peek _).bind (marked 'n' tail)⟩
  split
  case isTrue same =>
    subst same
    exact ⟨_, rfl, fun tail => (Takes.peek _).bind (marked 'r' tail)⟩
  split
  case isTrue same =>
    subst same
    exact ⟨_, rfl, fun tail => (Takes.peek _).bind (marked 't' tail)⟩
  split
  case isTrue same =>
    obtain rfl := eq_ofNat same
    exact ⟨_, rfl, fun tail => (Takes.peek _).bind (marked 'b' tail)⟩
  split
  case isTrue same =>
    obtain rfl := eq_ofNat same
    exact ⟨_, rfl, fun tail => (Takes.peek _).bind (marked 'f' tail)⟩
  exact ⟨_, rfl, fun tail =>
    (Takes.peek _).bind ((Takes.skip 'u' _).bind (takes_unicodeEscape small tail))⟩

/-- The text of a character in a string is the character itself, or a backslash and an escape for
it. -/
theorem escapeChar_cases (c : Char) :
    (escapeChar c = [c] ∧ c ≠ '"' ∧ c ≠ '\\' ∧ ¬c.toNat < 32) ∨
      ∃ e, escapeChar c = '\\' :: e ∧ ∀ tail, Takes escape (e ++ tail) c tail := by
  by_cases quote : c = '"'
  · subst quote
    exact .inr ⟨_, rfl, fun tail => (Takes.peek _).bind ((Takes.skip _ _).bind (.pure _ _))⟩
  by_cases backslash : c = '\\'
  · subst backslash
    exact .inr ⟨_, rfl, fun tail => (Takes.peek _).bind ((Takes.skip _ _).bind (.pure _ _))⟩
  by_cases small : c.toNat < 32
  · exact .inr (takes_escape_control small quote backslash)
  · refine .inl ⟨?_, quote, backslash, small⟩
    rw [escapeChar, if_neg quote, if_neg backslash, if_neg small]

variable {acc out : List Char} {fuel : Nat} {tail rest : List Char}

theorem takes_stringBody_char (c : Char) (onward : Takes (stringBody fuel (c :: acc)) tail out rest) :
    Takes (stringBody (fuel + 1) acc) (escapeChar c ++ tail) out rest := by
  rcases escapeChar_cases c with ⟨text, quote, backslash, large⟩ | ⟨e, text, taken⟩
  · rw [text]
    exact (Takes.peek _).bind
      (.ite_neg quote (.ite_neg backslash (.ite_neg large ((Takes.skip c tail).bind onward))))
  · rw [text]
    exact (Takes.peek _).bind (.ite_neg (by decide)
      (.ite_pos rfl ((Takes.skip '\\' _).bind ((taken tail).bind onward))))

theorem takes_stringBody (cs : List Char) (enough : cs.length < fuel) :
    Takes (stringBody fuel acc) (cs.flatMap escapeChar ++ '"' :: rest) (acc.reverse ++ cs) rest := by
  obtain ⟨fuel, rfl⟩ := Nat.exists_eq_succ_of_ne_zero (Nat.ne_zero_of_lt enough)
  induction cs generalizing fuel acc with
  | nil =>
    rw [List.append_nil]
    exact (Takes.peek _).bind (.ite_pos rfl ((Takes.skip '"' rest).bind (.pure _ rest)))
  | cons c cs ih =>
    have fewer : cs.length < fuel := Nat.lt_of_succ_lt_succ enough
    obtain ⟨fuel, rfl⟩ := Nat.exists_eq_succ_of_ne_zero (Nat.ne_zero_of_lt fewer)
    have onward := @ih (c :: acc) fuel fewer
    rw [List.reverse_cons, List.append_assoc, List.singleton_append] at onward
    rw [List.flatMap_cons, List.append_assoc]
    exact takes_stringBody_char c onward

theorem length_le_flatMap_escapeChar (cs : List Char) :
    cs.length ≤ (cs.flatMap escapeChar).length := by
  induction cs with
  | nil => exact Nat.le_refl 0
  | cons c cs ih =>
    have one : 1 ≤ (escapeChar c).length := by
      rcases escapeChar_cases c with ⟨text, -⟩ | ⟨e, text, -⟩ <;> rw [text] <;> simp
    rw [List.flatMap_cons, List.length_append, List.length_cons]
    omega

/-- A string whose opening quote has been read. -/
theorem takes_string (s : String) (rest : List Char) :
    Takes string ((s.toList.flatMap escapeChar ++ ['"']) ++ rest) s rest := by
  have enough := length_le_flatMap_escapeChar s.toList
  rw [List.append_assoc, List.singleton_append]
  refine (Takes.length _).bind ((takes_stringBody s.toList ?_).bind ?_)
  · rw [List.length_append, List.length_cons]
    omega
  · rw [List.reverse_nil, List.nil_append, String.ofList_toList]
    exact .pure s rest

theorem takes_key (s : String) (rest : List Char) :
    Takes key (quotedChars s.toList ++ rest) s rest :=
  (Takes.skip '"' _).bind (takes_string s rest)

end DbConsole.Json.Reader
