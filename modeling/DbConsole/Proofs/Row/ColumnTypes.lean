import DbConsole.Proofs.Text.Blank
import DbConsole.Row.Check

/-!
What a column of a type holds, told without reading the type: the names that a type goes by, and
the values that belong to each kind of type. A check of a cell against a type comes to the same.
-/
set_option autoImplicit false

namespace DbConsole

/-! ### ASCII capitals -/

namespace Text

/-- Lowering moves capitals alone, and those to small letters. -/
theorem lowerAscii_cases (c : Char) :
    lowerAscii c = c ∨ 65 ≤ c.toNat ∧ c.toNat ≤ 90 ∧ (lowerAscii c).toNat = c.toNat + 32 := by
  unfold lowerAscii
  split
  case isTrue capital =>
    have first : 65 ≤ c.toNat := capital.1
    have last : c.toNat ≤ 90 := capital.2
    have valid : (c.toNat + 32).isValidChar := .inl (by omega)
    refine .inr ⟨first, last, ?_⟩
    rw [Char.ofNat, dif_pos valid]
    rfl
  case isFalse => exact .inl rfl

theorem lowerAscii_eq_paren_iff (c : Char) : lowerAscii c = '(' ↔ c = '(' := by
  rcases lowerAscii_cases c with same | ⟨first, last, moved⟩
  · rw [same]
  · constructor
    · intro paren
      rw [paren] at moved
      change 40 = c.toNat + 32 at moved
      omega
    · rintro rfl
      rfl

theorem isBlank_lowerAscii (c : Char) : isBlank (lowerAscii c) = isBlank c := by
  rcases lowerAscii_cases c with same | ⟨first, last, moved⟩
  · rw [same]
  · have letter {d : Char} (low : 65 ≤ d.toNat) (high : d.toNat ≤ 122) : isBlank d = false := by
      simp only [isBlank, Bool.or_eq_false_iff, Bool.and_eq_false_iff, beq_eq_false_iff_ne,
        decide_eq_false_iff_not]
      omega
    rw [letter (by omega) (by omega), letter (by omega) (by omega)]

theorem blank_map_lowerAscii (cs : List Char) : Blank (cs.map lowerAscii) ↔ Blank cs := by
  simp [Blank, isBlank_lowerAscii]

end Text

namespace ColumnKind

/-! ### What a type is called -/

/-- The type goes by the name: that is how it reads in lower case, white space around the name and
parameters in parentheses left out. -/
def GoesBy (dataType name : String) : Prop :=
  ∃ before written behind parameters : List Char,
    dataType.toList = before ++ written ++ behind ++ parameters ∧
      Text.Blank before ∧ Text.Blank behind ∧
      written.map Text.lowerAscii = name.toList ∧
      (parameters = [] ∨ ∃ rest, parameters = '(' :: rest)

/-- What a type is looked up as. -/
def typeName (dataType : String) : String :=
  Text.trim (String.ofList ((Text.asciiLower dataType).toList.takeWhile (· != '(')))

def knownTypes : List String :=
  integerTypes ++ decimalTypes ++ booleanTypes

/-- No known name has white space around it or parameters. -/
theorem plain_of_mem {name : String} (known : name ∈ knownTypes) :
    Text.trimChars name.toList = name.toList ∧ '(' ∉ name.toList := by
  revert name
  decide

theorem typeName_eq (dataType name : String) : typeName dataType = name ↔
    Text.trimChars ((dataType.toList.takeWhile (· != '(')).map Text.lowerAscii) = name.toList := by
  have cut : (Text.asciiLower dataType).toList.takeWhile (· != '(') =
      (dataType.toList.takeWhile (· != '(')).map Text.lowerAscii := by
    have paren : (· != '(') ∘ Text.lowerAscii = (· != '(') := by
      funext c
      rw [Function.comp, bne, bne, Bool.eq_iff_iff]
      simp [Text.lowerAscii_eq_paren_iff]
    rw [Text.asciiLower, String.toList_ofList, List.takeWhile_map, paren]
  rw [typeName, Text.trim, String.toList_ofList, cut, ← String.toList_inj, String.toList_ofList]

/-- Each type is looked up as what it goes by. -/
theorem typeName_eq_iff {dataType name : String} (known : name ∈ knownTypes) :
    typeName dataType = name ↔ GoesBy dataType name := by
  have ⟨tight, plain⟩ := plain_of_mem known
  rw [typeName_eq, Text.trimChars_eq_iff tight]
  constructor
  · rintro ⟨before', behind', ahead, after, parted⟩
    obtain ⟨front, behind, cut, frontEq, rfl⟩ := List.map_eq_append_iff.mp parted
    obtain ⟨before, written, rfl, rfl, read⟩ := List.map_eq_append_iff.mp frontEq
    refine ⟨before, written, behind, dataType.toList.dropWhile (· != '('), ?_,
      (Text.blank_map_lowerAscii before).mp ahead, (Text.blank_map_lowerAscii behind).mp after,
      read, ?_⟩
    · rw [← cut, List.takeWhile_append_dropWhile]
    · cases rest : dataType.toList.dropWhile (· != '(') with
      | nil => exact .inl rfl
      | cons c rest' =>
        have stop := List.head?_dropWhile_not (· != '(') dataType.toList
        rw [rest] at stop
        exact .inr ⟨rest', by rw [bne_eq_false_iff_eq.mp stop]⟩
  · rintro ⟨before, written, behind, parameters, whole, ahead, after, read, open_⟩
    refine ⟨before.map Text.lowerAscii, behind.map Text.lowerAscii,
      (Text.blank_map_lowerAscii before).mpr ahead, (Text.blank_map_lowerAscii behind).mpr after, ?_⟩
    have unopened : ∀ c ∈ before ++ written ++ behind, (c != '(') = true := by
      intro c mem
      refine bne_iff_ne.mpr ?_
      rintro rfl
      rcases List.mem_append.mp mem with mem | mem
      · rcases List.mem_append.mp mem with mem | mem
        · exact absurd (ahead _ mem) (by decide)
        · exact plain (read ▸ List.mem_map.mpr ⟨'(', mem, rfl⟩)
      · exact absurd (after _ mem) (by decide)
    have cut : dataType.toList.takeWhile (· != '(') = before ++ written ++ behind := by
      rw [whole, List.takeWhile_append_of_pos unopened]
      rcases open_ with rfl | ⟨rest, rfl⟩
      · exact List.append_nil _
      · exact List.append_nil _
    rw [cut, List.map_append, List.map_append, read]

/-! ### The kind of a type -/

/-- The kind of a type, by the names that it goes by. -/
inductive IsOf (dataType : String) : ColumnKind → Prop
  | integer {name : String} (named : name ∈ integerTypes) (goes : GoesBy dataType name) :
      IsOf dataType .integer
  | decimal {name : String} (named : name ∈ decimalTypes) (goes : GoesBy dataType name) :
      IsOf dataType .decimal
  | boolean {name : String} (named : name ∈ booleanTypes) (goes : GoesBy dataType name) :
      IsOf dataType .boolean
  | other (unknown : ∀ name ∈ knownTypes, ¬GoesBy dataType name) : IsOf dataType .other

theorem known_of_integer {name : String} (named : name ∈ integerTypes) : name ∈ knownTypes :=
  List.mem_append_left _ (List.mem_append_left _ named)

theorem known_of_decimal {name : String} (named : name ∈ decimalTypes) : name ∈ knownTypes :=
  List.mem_append_left _ (List.mem_append_right _ named)

theorem known_of_boolean {name : String} (named : name ∈ booleanTypes) : name ∈ knownTypes :=
  List.mem_append_right _ named

/-- No two kinds have a name in common. -/
theorem notMem_of_decimal {name : String} (named : name ∈ decimalTypes) : name ∉ integerTypes := by
  revert name
  decide

theorem notMem_of_boolean {name : String} (named : name ∈ booleanTypes) :
    name ∉ integerTypes ∧ name ∉ decimalTypes := by
  revert name
  decide

theorem isOf_iff (dataType : String) (kind : ColumnKind) :
    IsOf dataType kind ↔ ofType dataType = kind := by
  have found {name : String} (known : name ∈ knownTypes) (goes : GoesBy dataType name) :
      typeName dataType = name :=
    (typeName_eq_iff known).mpr goes
  have itself (known : typeName dataType ∈ knownTypes) : GoesBy dataType (typeName dataType) :=
    (typeName_eq_iff known).mp rfl
  change _ ↔ (if typeName dataType ∈ integerTypes then .integer
    else if typeName dataType ∈ decimalTypes then .decimal
    else if typeName dataType ∈ booleanTypes then .boolean else .other) = kind
  constructor
  · intro of
    cases of with
    | integer named goes =>
      rw [found (known_of_integer named) goes, if_pos named]
    | decimal named goes =>
      rw [found (known_of_decimal named) goes, if_neg (notMem_of_decimal named), if_pos named]
    | boolean named goes =>
      have ⟨notInteger, notDecimal⟩ := notMem_of_boolean named
      rw [found (known_of_boolean named) goes, if_neg notInteger, if_neg notDecimal, if_pos named]
    | other unknown =>
      have absent : typeName dataType ∉ knownTypes := fun known => unknown _ known (itself known)
      rw [if_neg fun named => absent (known_of_integer named),
        if_neg fun named => absent (known_of_decimal named),
        if_neg fun named => absent (known_of_boolean named)]
  · rintro rfl
    split_ifs with named named' named''
    · exact .integer named (itself (known_of_integer named))
    · exact .decimal named' (itself (known_of_decimal named'))
    · exact .boolean named'' (itself (known_of_boolean named''))
    · refine .other fun name known goes => ?_
      rw [← found known goes, knownTypes, List.mem_append, List.mem_append] at known
      exact known.elim (fun known => known.elim named named') named''

example : ofType " Double Precision (10, 2)" = .decimal := rfl

/-! ### What a kind of type holds -/

/-- The values that belong to a kind of type. NULL belongs to each; a text does where it spells a
value that does, white space around it left out. -/
inductive Holds : ColumnKind → Cell → Prop
  | null {kind : ColumnKind} : Holds kind .null
  | anything {cell : Cell} : Holds .other cell
  | whole {n : Int} : Holds .integer (.number (.whole n))
  | spelledWhole {s : String} {n : Int} (spelled : Notation.integer? (Text.trim s) = some n) :
      Holds .integer (.text s)
  | number {n : Number} : Holds .decimal (.number n)
  | spelledNumber {s : String} (spelled : Notation.isDecimal (Text.trim s) = true) :
      Holds .decimal (.text s)
  | truth {b : Bool} : Holds .boolean (.bool b)
  | bit {n : Int} (bit : n = 0 ∨ n = 1) : Holds .boolean (.number (.whole n))
  | spelledTruth {s : String}
      (spelled : Text.asciiLower (Text.trim s) ∈ ["true", "false", "t", "f", "1", "0"]) :
      Holds .boolean (.text s)

theorem holds_iff (kind : ColumnKind) (cell : Cell) : Holds kind cell ↔ kind.admits cell = true := by
  constructor
  · intro held
    cases held with
    | null => cases kind <;> rfl
    | anything => cases cell <;> rfl
    | whole => rfl
    | spelledWhole spelled => simp [admits, spelled]
    | number => rfl
    | spelledNumber spelled => exact spelled
    | truth => rfl
    | bit bit => rcases bit with rfl | rfl <;> rfl
    | spelledTruth spelled => exact List.contains_iff_mem.mpr spelled
  · intro admitted
    cases kind with
    | integer =>
      cases cell with
      | null => exact .null
      | number n =>
        cases n with
        | whole n => exact .whole
        | real x => cases admitted
      | text s =>
        obtain ⟨n, spelled⟩ := Option.isSome_iff_exists.mp admitted
        exact .spelledWhole spelled
      | bool b => cases admitted
      | json j => cases admitted
    | decimal =>
      cases cell with
      | null => exact .null
      | number n => exact .number
      | text s => exact .spelledNumber admitted
      | bool b => cases admitted
      | json j => cases admitted
    | boolean =>
      cases cell with
      | null => exact .null
      | bool b => exact .truth
      | number n =>
        rw [admits, Bool.or_eq_true, beq_iff_eq, beq_iff_eq] at admitted
        rcases admitted with rfl | rfl
        · exact .bit (.inl rfl)
        · exact .bit (.inr rfl)
      | text s =>
        rw [admits, List.contains_iff_mem] at admitted
        exact .spelledTruth admitted
      | json j => cases admitted
    | other => exact .anything

end ColumnKind

/-- A value that a column can hold, whether it may be NULL aside. -/
def Column.Holds (column : Column) (cell : Cell) : Prop :=
  ∃ kind, ColumnKind.IsOf column.dataType kind ∧ kind.Holds cell

theorem Column.holds_iff (column : Column) (cell : Cell) :
    column.Holds cell ↔ (ColumnKind.ofType column.dataType).admits cell = true := by
  constructor
  · rintro ⟨kind, of, held⟩
    rw [(ColumnKind.isOf_iff _ _).mp of]
    exact (ColumnKind.holds_iff _ _).mp held
  · intro admitted
    exact ⟨_, (ColumnKind.isOf_iff _ _).mpr rfl, (ColumnKind.holds_iff _ _).mpr admitted⟩

end DbConsole
