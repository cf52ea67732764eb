import DbConsole.Proofs.Json.Skipping

/-!
Every reader of a value reads one value: where it succeeds it stops where the reader of any document
stops, however much of the value it passes over or refuses to keep.
-/
set_option autoImplicit false

namespace DbConsole.Json

open Reader

namespace Reader

variable {α β : Type} {depth : Nat}

theorem verbatim_next {s t : Source} {o : Option Char} (spaces : next s = .ok (o, t)) :
    verbatim depth s = verbatim depth t := by
  unfold verbatim
  exact next_bind spaces

/-! ### Scalars -/

theorem sameStop_truth : SameStop truth (verbatim depth) := by
  unfold truth verbatim
  refine .onward fun o => ?_
  split
  case h_1 => exact .of_fails (.failNext _) _
  case h_2 | h_3 => exact .onward fun _ => .onward fun _ => .of_still (.pure _) (.pure _)
  case h_4 => exact .of_fails (fails_wrongType _) _

theorem sameStop_onlyNull : SameStop onlyNull (verbatim depth) := by
  unfold onlyNull verbatim
  refine .onward fun o => ?_
  split
  case h_1 => exact .of_fails (.failNext _) _
  case h_2 => exact .onward fun _ => (SameStop.then_still (.refl _) fun _ => .pure _).symm
  case h_3 => exact .of_fails (fails_wrongType _) _

theorem sameStop_quoted {expected : String} :
    SameStop
      (do
        match ← next with
        | none => failNext .endInValue
        | some '"' => key
        | some _ => wrongType expected)
      (verbatim depth) := by
  unfold verbatim key
  refine .onward fun o => ?_
  split
  case h_1 => exact .of_fails (.failNext _) _
  case h_2 => exact .onward fun _ => (SameStop.then_still (.refl _) fun _ => .pure _).symm
  case h_3 => exact .of_fails (fails_wrongType _) _

theorem sameStop_text : SameStop text (verbatim depth) :=
  sameStop_quoted

theorem sameStop_identifier : SameStop identifier (verbatim depth) :=
  sameStop_quoted

theorem sameStop_numeric (expected : String) (convert : Number → Except Cause α) :
    SameStop (numeric expected convert) (verbatim depth) := by
  unfold numeric verbatim
  refine .onward fun o => ?_
  cases o with
  | none => exact .of_fails (.failNext _) _
  | some c =>
    dsimp only
    by_cases numeric : c = '-' ∨ Text.isAsciiDigit c = true
    · rw [if_pos numeric]
      split
      case h_1 same => cases same
      case h_2 same | h_3 same | h_4 same | h_5 same | h_6 same | h_7 same =>
        obtain rfl := Option.some.inj same
        exact absurd numeric (by decide)
      case h_8 c' _ _ _ _ _ _ same =>
        obtain rfl := Option.some.inj same
        rw [if_pos numeric]
        exact .onward fun n => .of_still (.settle (convert n)) (.pure _)
    · rw [if_neg numeric]
      exact .of_fails (fails_wrongType _) _

/-! ### Lists and objects -/

theorem sameStop_items {item : Reader α} {item' : Reader β} (each : SameStop item item')
    (n n' : Nat) (first : Bool) : SameStop (items item n first) (items item' n' first) := by
  induction n generalizing n' first with
  | zero => exact .of_fails (.fail _) _
  | succ n ih =>
    cases n' with
    | zero => exact .of_fails' _ (.fail _)
    | succ n' =>
      refine .onward fun more => .ite (fun _ => ?_) fun _ => .of_still (.pure _) (.pure _)
      exact .bind each fun _ _ => .bind (ih n' false) fun _ _ => .of_still (.pure _) (.pure _)

theorem sameStop_fields {item : Reader α} {item' : Reader β} (each : SameStop item item')
    (n n' : Nat) (first : Bool) : SameStop (fields item n first) (fields item' n' first) := by
  induction n generalizing n' first with
  | zero => exact .of_fails (.fail _) _
  | succ n ih =>
    cases n' with
    | zero => exact .of_fails' _ (.fail _)
    | succ n' =>
      refine .onward fun more => .ite (fun _ => ?_) fun _ => .of_still (.pure _) (.pure _)
      exact .onward fun _ => .onward fun _ => .bind each fun _ _ =>
        .bind (ih n' false) fun _ _ => .of_still (.pure _) (.pure _)

theorem sameStop_listOf {item : Reader α} {item' : Reader β} (each : SameStop item item') :
    SameStop (listOf item) (listOf item') :=
  .onward fun _ => .onward fun n => .bind (sameStop_items each (n + 1) (n + 1) true) fun _ _ =>
    .onward fun _ => .of_still (.pure _) (.pure _)

theorem sameStop_objectOf {item : Reader α} {item' : Reader β} (each : SameStop item item') :
    SameStop (objectOf item) (objectOf item') :=
  .onward fun _ => .onward fun n => .bind (sameStop_fields each (n + 1) (n + 1) true) fun _ _ =>
    .onward fun _ => .of_still (.pure _) (.pure _)

/-- Fields that are taken one by one, or passed over, end where they end when all are read. -/
theorem sameStop_fieldLoop {π : Type} {take : String → π → Option (Reader π)}
    (each : ∀ k p r, take k p = some r → SameStop r (do colon; verbatim depth))
    (n n' : Nat) (first : Bool) (p : π) :
    SameStop (fieldLoop take n first p) (restOfObject (verbatim depth) n' first) := by
  induction n generalizing n' first p with
  | zero => exact .of_fails (.fail _) _
  | succ n ih =>
    cases n' with
    | zero => exact .of_fails' _ fails_restOfObject
    | succ n' =>
      intro s q s₁ _ s₂ read read'
      obtain ⟨more, u, goes, read⟩ := bind_eq_ok.mp read
      obtain ⟨u', ends, closed⟩ | ⟨u', k, v, w, j, x, goes', named, parted, taken, others⟩ :=
        restOfObject_eq_ok read'
      · cases goes.symm.trans ends
        exact SameStop.then_still (.refl skip) (fun _ => .pure p) u q s₁ () s₂ read closed
      · cases goes.symm.trans goes'
        obtain ⟨k', v', named', read⟩ := bind_eq_ok.mp read
        cases named.symm.trans named'
        cases found : take k p with
        | none =>
          rw [found] at read
          obtain ⟨_, w', parted', read⟩ := bind_eq_ok.mp read
          cases parted.symm.trans parted'
          obtain ⟨_, x', passed, read⟩ := bind_eq_ok.mp read
          obtain rfl := sameStop_skipValue depth w () x' j x passed taken
          exact ih n' false p x' q s₁ () s₂ read others
        | some r =>
          rw [found] at read
          obtain ⟨q', x', held, read⟩ := bind_eq_ok.mp read
          obtain rfl := each k p r found v q' x' j x held (bind_eq_ok.mpr ⟨(), w, parted, taken⟩)
          exact ih n' false q' x' q s₁ () s₂ read others

/-! ### Containers that are read in ways of their own -/

theorem sameStop_inObject {inside : Reader α} {d : Nat}
    (within : ∀ n, SameStop inside (restOfObject (verbatim d) (n + 1) true)) :
    SameStop (do skip; inside) (do return Json.object (← objectOf (verbatim d))) := by
  refine (SameStop.then_still ?_ fun _ => .pure _).symm
  exact .onward fun _ => .behind_still .length fun n => .keeping (within n).symm

theorem sameStop_inList {inside : Reader α} {d : Nat}
    (within : ∀ n, SameStop inside (restOfList (verbatim d) (n + 1) true)) :
    SameStop (do skip; inside) (do return Json.array (← listOf (verbatim d))) := by
  refine (SameStop.then_still ?_ fun _ => .pure _).symm
  exact .onward fun _ => .behind_still .length fun n => .keeping (within n).symm

/-- Behind the only field of a choice no other field may follow. -/
theorem sameStop_choiceEnd (a : α) (item : Reader β) (n : Nat) :
    SameStop
      (do
        match ← next with
        | some '\x7d' => do skip; return a
        | some _ => fail .expectedValue
        | none => fail .endInObject)
      (restOfObject item n false) := by
  cases n with
  | zero => exact .of_fails' _ fails_restOfObject
  | succ n =>
    intro s _ s₁ _ s₂ read read'
    obtain ⟨u, ends, closed⟩ | ⟨_, _, _, _, _, _, goes, -⟩ := restOfObject_eq_ok read'
    · obtain ⟨-, closes⟩ | ⟨⟨⟩, _⟩ := moreFields_eq_ok ends
      have onward := (bind_of_ok closes).symm.trans read
      exact SameStop.then_still (.refl skip) (fun _ => .pure a) u _ s₁ () s₂ onward closed
    · obtain ⟨⟨⟩, _⟩ | ⟨-, ⟨⟨⟩, _⟩ | ⟨-, _, _, comma, -⟩⟩ := moreFields_eq_ok goes
      have onward := (bind_of_ok comma).symm.trans read
      cases onward

theorem sameStop_choiceField (names : List String) (d n : Nat) :
    SameStop
      (do
        let i ← settle (chosen? names (← identifier))
        colon
        onlyNull
        match ← next with
        | some '\x7d' => do skip; return i
        | some _ => fail .expectedValue
        | none => fail .endInObject)
      (restOfObject (verbatim d) (n + 1) true) := by
  intro s i s₁ _ s₂ read read'
  obtain ⟨k, t, named, chosen⟩ := bind_eq_ok.mp read
  obtain ⟨u, ends, -⟩ | ⟨u, k', v, w, j, x, goes, named', parted, taken, others⟩ :=
    restOfObject_eq_ok read'
  · obtain ⟨-, closes⟩ | ⟨⟨⟩, _⟩ := moreFields_eq_ok ends
    exact absurd ((bind_of_ok closes).symm.trans named) (fails_wrongType _ u k t)
  · obtain ⟨⟨⟩, _⟩ | ⟨-, ⟨-, quote⟩ | ⟨⟨⟩, _⟩⟩ := moreFields_eq_ok goes
    cases ((bind_of_ok quote).symm.trans named).symm.trans named'
    obtain ⟨i', v', settled, onward⟩ := bind_eq_ok.mp chosen
    obtain rfl := Still.settle _ _ _ _ settled
    obtain ⟨_, w', parted', onward⟩ := bind_eq_ok.mp onward
    cases parted.symm.trans parted'
    obtain ⟨_, x', null, onward⟩ := bind_eq_ok.mp onward
    obtain rfl := sameStop_onlyNull w () x' j x null taken
    exact sameStop_choiceEnd i' (verbatim d) n x' i s₁ () s₂ onward others

theorem sameStop_choice (names : List String) : SameStop (choice names depth) (verbatim depth) := by
  unfold choice verbatim
  refine .onward fun o => ?_
  split
  case h_1 => exact .of_fails (.failNext _) _
  case h_2 =>
    refine .then_still ?_ fun k => .settle (chosen? names k)
    exact .onward fun _ => (SameStop.then_still (.refl _) fun _ => .pure _).symm
  case h_3 =>
    cases depth with
    | zero => exact .of_fails (.failNext _) _
    | succ d => exact sameStop_inObject (sameStop_choiceField names d)
  case h_4 => exact .of_fails (.failNext _) _

theorem sameStop_presence {item : Reader α} (same : SameStop item (verbatim depth))
    (presence : Presence) : SameStop (presence.read item) (verbatim depth) := by
  cases presence with
  | required => exact same
  | defaulted => exact same
  | nullable inList omitted =>
    intro s given s₁ j s₂ read read'
    obtain ⟨o, t, spaces, read⟩ := bind_eq_ok.mp read
    rw [verbatim_next spaces] at read'
    split at read
    case h_1 =>
      obtain ⟨_, u, skipped, read⟩ := bind_eq_ok.mp read
      obtain ⟨_, v, spelled, done⟩ := bind_eq_ok.mp read
      obtain ⟨-, rfl⟩ := Prod.mk.inj (Except.ok.inj done)
      have null : onlyNull t = .ok ((), v) :=
        (bind_of_ok (next_again spaces)).trans (bind_eq_ok.mpr ⟨(), u, skipped, spelled⟩)
      exact sameStop_onlyNull t () v j s₂ null read'
    case h_2 => exact SameStop.then_still same (fun _ => .pure _) t given s₁ j s₂ read read'

theorem endList_eq_ok {s t : Source} (read : endList s = .ok ((), t)) :
    ∃ u, next s = .ok (some ']', u) ∧ skip u = .ok ((), t) := by
  obtain ⟨o, u, spaces, read⟩ := bind_eq_ok.mp read
  split at read
  case h_1 => exact ⟨u, spaces, read⟩
  case h_2 =>
    obtain ⟨_, v, -, read⟩ := bind_eq_ok.mp read
    obtain ⟨o, w, -, read⟩ := bind_eq_ok.mp read
    split at read <;> cases read
  case h_3 => cases read
  case h_4 => cases read

theorem sameStop_endList (item : Reader α) (n : Nat) (first : Bool) :
    SameStop endList (restOfList item (n + 1) first) := by
  intro s _ s₁ _ s₂ read read'
  obtain ⟨u, closes, skipped⟩ := endList_eq_ok read
  obtain ⟨u', ends, closed⟩ | ⟨u', a, v, goes, -⟩ := restOfList_eq_ok read'
  · obtain ⟨-, closes'⟩ | ⟨⟨⟩, _⟩ := moreItems_eq_ok ends
    cases closes.symm.trans closes'
    cases skipped.symm.trans closed
    rfl
  · obtain ⟨⟨⟩, _⟩ | ⟨-, c, inside, ⟨-, opens⟩ | ⟨-, _, _, comma, -⟩⟩ := moreItems_eq_ok goes
    · cases closes.symm.trans opens
      exact absurd rfl inside
    · cases closes.symm.trans comma

/-! ### Tagged objects -/

theorem sameStop_taggedLoop (tag : String) (names : List String) (n n' : Nat) (first : Bool)
    (found : Option String) (others : List (String × Json)) :
    SameStop (taggedLoop tag names depth n first found others)
      (restOfObject (verbatim depth) n' first) := by
  induction n generalizing n' first found others with
  | zero => exact .of_fails (.fail _) _
  | succ n ih =>
    cases n' with
    | zero => exact .of_fails' _ fails_restOfObject
    | succ n' =>
      intro s r s₁ _ s₂ read read'
      obtain ⟨more, u, goes, read⟩ := bind_eq_ok.mp read
      obtain ⟨u', ends, closed⟩ | ⟨u', k, v, w, j, x, goes', named, parted, taken, left⟩ :=
        restOfObject_eq_ok read'
      · cases goes.symm.trans ends
        exact SameStop.then_still (.refl skip) (fun _ => .pure _) u r s₁ () s₂ read closed
      · cases goes.symm.trans goes'
        obtain ⟨k', v', named', read⟩ := bind_eq_ok.mp read
        cases named.symm.trans named'
        by_cases same : k = tag
        · rw [if_pos same] at read
          cases found with
          | some _ => exact absurd read (fails_failClosing _ _ _ _ _)
          | none =>
            obtain ⟨_, w', parted', read⟩ := bind_eq_ok.mp read
            cases parted.symm.trans parted'
            obtain ⟨case, x', spelled, chosen⟩ := bind_eq_ok.mp read
            obtain rfl := sameStop_identifier w case x' j x spelled taken
            obtain ⟨i, y, settled, onward⟩ := bind_eq_ok.mp chosen
            obtain rfl := Still.settle _ _ _ _ settled
            exact ih n' false _ _ y r s₁ () s₂ onward left
        · rw [if_neg same] at read
          obtain ⟨_, w', parted', read⟩ := bind_eq_ok.mp read
          cases parted.symm.trans parted'
          obtain ⟨j', x', taken', read⟩ := bind_eq_ok.mp read
          cases taken.symm.trans taken'
          exact ih n' false _ _ x r s₁ () s₂ read left

theorem sameStop_taggedList (tag : String) (names : List String) (n : Nat) :
    SameStop
      (do
        if ← moreItems true then
          let i ← settle (chosen? names (← identifier))
          let js ← items (verbatim depth) ((← length) + 1) false
          skip
          return (names.get i, Json.array js)
        else do
          skip
          fail (.missingField tag))
      (restOfList (verbatim depth) (n + 1) true) := by
  intro s r s₁ _ s₂ read read'
  obtain ⟨more, u, goes, read⟩ := bind_eq_ok.mp read
  obtain ⟨u', ends, -⟩ | ⟨u', j, v, goes', taken, left⟩ := restOfList_eq_ok read'
  · cases goes.symm.trans ends
    obtain ⟨_, w, _, ⟨⟩⟩ := bind_eq_ok.mp read
  · cases goes.symm.trans goes'
    obtain ⟨case, v', spelled, chosen⟩ := bind_eq_ok.mp read
    obtain rfl := sameStop_identifier u case v' j v spelled taken
    obtain ⟨i, w, settled, onward⟩ := bind_eq_ok.mp chosen
    obtain rfl := Still.settle _ _ _ _ settled
    refine SameStop.behind_still .length (fun m => ?_) w r s₁ () s₂ onward left
    exact .keeping (.bind (sameStop_items (.refl _) _ _ _) fun _ _ => .refl _)

theorem sameStop_taggedParts (name tag : String) (names : List String) :
    SameStop (taggedParts name tag names depth) (verbatim depth) := by
  rw [taggedParts, verbatim.eq_def depth]
  refine .onward fun o => ?_
  split
  case h_1 => exact .of_fails (.failNext _) _
  case h_2 =>
    cases depth with
    | zero => exact .of_fails (.failNext _) _
    | succ d =>
      refine sameStop_inObject fun n => ?_
      refine .behind_still .length fun m => ?_
      refine .then_still (sameStop_taggedLoop tag names _ _ true none []) fun r => ?_
      obtain ⟨_ | _, _⟩ := r
      · exact .of_fails (.fail _)
      · exact .pure _
  case h_3 =>
    cases depth with
    | zero => exact .of_fails (.failNext _) _
    | succ d =>
      refine sameStop_inList fun n => ?_
      exact sameStop_taggedList tag names n
  case h_4 => exact .of_fails (fails_wrongType _) _

end Reader

/-- At the bracket of the list no field takes anything more. -/
theorem Fields.skip_of_readList (expected : String) {s : Source}
    (closes : next s = .ok (some ']', s)) : (fs : Fields) → (depth index : Nat) → {v : fs.Value} →
    {s₁ : Source} → fs.readList expected depth index s = .ok (v, s₁) → skip s = .ok ((), s₁)
  | .nil, _, _, _, _, read => (bind_of_ok closes).symm.trans read
  | .cons _ shape presence rest, depth, index, _, _, read => by
    have ends : moreItems (index == 0) s = .ok (false, s) := bind_of_ok closes
    have read := (congrFun (if_neg Bool.false_ne_true) s).symm.trans
      ((bind_of_ok ends).symm.trans read)
    cases cut : @Presence.cutOff shape.Value presence with
    | none =>
      rw [cut] at read
      exact absurd read (fails_failClosing _ _ _ _ _)
    | some slot =>
      rw [cut] at read
      obtain ⟨v, t, onward, done⟩ := bind_eq_ok.mp read
      cases done
      exact rest.skip_of_readList expected closes depth (index + 1) onward

mutual
/-- Where a value of the shape can be read, it ends where it ends as a document. -/
theorem Shape.sameStop_read : (s : Shape) → (depth : Nat) →
    SameStop (s.read depth) (verbatim depth)
  | .any, depth => by
    intro s a s₁ j s₂ read read'
    change (verbatim depth s).map _ = _ at read
    rw [read'] at read
    cases read
    rfl
  | .bool, _ => sameStop_truth
  | .natural bits, _ => sameStop_numeric _ _
  | .integer, _ => sameStop_numeric _ _
  | .text, _ => sameStop_text
  | .unit, _ => sameStop_onlyNull
  | .choice names, _ => sameStop_choice names
  | .optional item, depth => sameStop_presence (item.sameStop_read depth) (.nullable false false)
  | .list item, depth => by
    unfold Shape.read verbatim
    refine .onward fun o => ?_
    split
    case h_1 => exact .of_fails (.failNext _) _
    case h_2 =>
      cases depth with
      | zero => exact .of_fails (.failNext _) _
      | succ d =>
        exact (SameStop.then_still (sameStop_listOf (item.sameStop_read d)).symm fun _ => .pure _).symm
    case h_3 => exact .of_fails (fails_wrongType _) _
  | .dictionary item, depth => by
    unfold Shape.read verbatim
    refine .onward fun o => ?_
    split
    case h_1 => exact .of_fails (.failNext _) _
    case h_2 =>
      cases depth with
      | zero => exact .of_fails (.failNext _) _
      | succ d =>
        exact .bind (sameStop_objectOf (item.sameStop_read d)) fun _ _ => .of_still (.pure _) (.pure _)
    case h_3 => exact .of_fails (fails_wrongType _) _
  | .record name fields, depth => by
    unfold Shape.read verbatim
    refine .onward fun o => ?_
    split
    case h_1 => exact .of_fails (.failNext _) _
    case h_2 =>
      cases depth with
      | zero => exact .of_fails (.failNext _) _
      | succ d =>
        refine sameStop_inObject fun n => .behind_still .length fun m => ?_
        exact .then_still (sameStop_fieldLoop (fields.sameStop_readKey d) _ _ true _) fun _ =>
          .settle _
    case h_3 =>
      cases depth with
      | zero => exact .of_fails (.failNext _) _
      | succ d => exact sameStop_inList fun n => fields.sameStop_readList _ d 0 (n + 1)
    case h_4 => exact .of_fails (fails_wrongType _) _
  | .tagged name tag cases, depth => by
    unfold Shape.read
    exact .then_still (sameStop_taggedParts name tag cases.names) fun _ => .atLarge _

theorem Fields.sameStop_readKey : (fs : Fields) → (depth : Nat) → (k : String) → (p : fs.Partial) →
    (r : Reader fs.Partial) → fs.readKey depth k p = some r →
    SameStop r (do colon; verbatim depth)
  | .nil, _, _, _, _, found => by cases found
  | .cons key shape presence rest, depth, k, (given, more), r, found => by
    by_cases same : k = key
    · have own : (Fields.cons key shape presence rest).readKey depth k (given, more) = _ :=
        if_pos same
      have found := own.symm.trans found
      cases given with
      | some _ =>
        cases found
        exact .of_fails (fails_failClosing _ _) _
      | none =>
        cases found
        refine .onward fun _ => .then_still ?_ fun _ => .pure _
        exact sameStop_presence (shape.sameStop_read depth) presence
    · have own : (Fields.cons key shape presence rest).readKey depth k (given, more) = _ :=
        if_neg same
      obtain ⟨r', held, rfl⟩ := Option.map_eq_some_iff.mp (own.symm.trans found)
      exact .then_still (rest.sameStop_readKey depth k more r' held) fun _ => .pure _

theorem Fields.sameStop_readList (expected : String) : (fs : Fields) → (depth index n : Nat) →
    SameStop (fs.readList expected depth index) (restOfList (verbatim depth) n (index == 0))
  | _, _, _, 0 => .of_fails' _ fails_restOfList
  | .nil, depth, index, n + 1 => sameStop_endList (verbatim depth) n (index == 0)
  | .cons key shape presence rest, depth, index, n + 1 => by
    intro s v s₁ _ s₂ read read'
    unfold Fields.readList at read
    obtain ⟨more, u, goes, read⟩ := bind_eq_ok.mp read
    obtain ⟨u', ends, closed⟩ | ⟨u', j, w, goes', taken, left⟩ := restOfList_eq_ok read'
    · cases goes.symm.trans ends
      obtain ⟨-, closes⟩ | ⟨⟨⟩, _⟩ := moreItems_eq_ok ends
      have again : moreItems (index == 0) u = .ok (false, u) := bind_of_ok (next_again closes)
      have whole : (Fields.cons key shape presence rest).readList expected depth index u =
          .ok (v, s₁) := (bind_of_ok again).trans read
      have skipped := Fields.skip_of_readList expected (next_again closes) _ depth index whole
      cases skipped.symm.trans closed
      rfl
    · cases goes.symm.trans goes'
      obtain ⟨a, w', held, read⟩ := bind_eq_ok.mp read
      obtain rfl := sameStop_presence (shape.sameStop_read depth) presence u a w' j w held taken
      obtain ⟨v', x, later, done⟩ := bind_eq_ok.mp read
      obtain ⟨-, rfl⟩ := Prod.mk.inj (Except.ok.inj done)
      exact rest.sameStop_readList expected depth (index + 1) n w' v' x () s₂ later left
end

end DbConsole.Json
