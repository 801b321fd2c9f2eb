import FlightComputer.BoardTester.JsonDecoding

/-!
# Texts that spell a value

A text spells a value if the scanner of `json.loads` reads it as this value and stops behind it
(`Spells`). Objects and arrays without whitespace spell what their members and elements do
(`spells_object`, `spells_array`), so a text that was put together from parts is read as the
value that is put together in the same way (`Spells.loads`).
-/

set_option autoImplicit false

namespace FlightComputer.BoardTester

open Library

/-- A text spells a value, whatever follows it. -/
structure Spells (text : PyStr) (value : PyJson) : Prop where
  starts : ∀ rest, skipSpace (text ++ rest) = text ++ rest
  reads : ∀ bound rest, text.length ≤ bound → EndsNumber rest →
    scanOnce bound (text ++ rest) = some (value, rest)

/-- A member of an object: its name, its text and its value. -/
structure SpelledMember where
  key : PyStr
  text : PyStr
  value : PyJson

/-- Its name is plain, and its text spells its value. -/
structure SpelledMember.Sound (member : SpelledMember) : Prop where
  plain : IsPlainText member.key
  spells : Spells member.text member.value

/-- The text of a member and of what follows it. -/
def memberText (member : SpelledMember) (further : PyStr) : PyStr :=
  34 :: (member.key ++ 34 :: 58 :: (member.text ++ further))

/-- The text after the first member. -/
def furtherMemberTexts : List SpelledMember → PyStr
  | [] => [125]
  | member :: members => 44 :: memberText member (furtherMemberTexts members)

/-- The text of an object. -/
def objectText : List SpelledMember → PyStr
  | [] => [123, 125]
  | member :: members => 123 :: memberText member (furtherMemberTexts members)

/-- An element of an array. -/
structure SpelledElement where
  text : PyStr
  value : PyJson

/-- The text after the first element. -/
def furtherElementTexts : List SpelledElement → PyStr
  | [] => [93]
  | element :: elements => 44 :: (element.text ++ furtherElementTexts elements)

/-- The text of an array. -/
def arrayText : List SpelledElement → PyStr
  | [] => [91, 93]
  | element :: elements => 91 :: (element.text ++ furtherElementTexts elements)

/-! ## Numbers and strings -/

theorem spells_dumps {value : PyValue} (plain : value.Plain)
    (small : value.size ≤ (codes (dumps value)).length) :
    Spells (codes (dumps value)) value.loaded where
  starts := skipSpace_dumps value
  reads bound rest fits ends :=
    (scan_dumps bound).1 value rest plain (Nat.le_trans small fits) ends

theorem spells_int (value : Int) : Spells (codes (signedDecimalText value)) (.int value) := by
  have digits : 1 ≤ (codes (signedDecimalText value)).length := by
    rw [length_codes]
    cases value with
    | ofNat n => exact List.length_pos_iff.mpr (decimalText_ne_nil n)
    | negSucc n => exact Nat.le_add_left 1 _
  exact @spells_dumps (.int value) trivial digits

theorem spells_str {text : PyStr} (plain : IsPlainText text) :
    Spells (34 :: (text ++ [34])) (.str text) := by
  have quoted := @spells_dumps (.str text) plain (by
    rw [codes_dumps_str plain]
    exact Nat.le_add_left 1 _)
  rw [codes_dumps_str plain] at quoted
  exact quoted

/-! ## Objects -/

/-- The members as they are read. -/
def readMembers (members : List SpelledMember) : List (PyStr × PyJson) :=
  members.map fun member => (member.key, member.value)

theorem endsNumber_furtherMemberTexts (members : List SpelledMember) (rest : PyStr) :
    EndsNumber (furtherMemberTexts members ++ rest) := by
  cases members with
  | nil =>
      rintro _ ⟨⟩
      decide
  | cons member members =>
      rintro _ ⟨⟩
      decide

theorem memberText_append (member : SpelledMember) (further rest : PyStr) :
    memberText member further ++ rest =
      34 :: (member.key ++ 34 :: 58 :: (member.text ++ (further ++ rest))) := by
  simp only [memberText, List.cons_append, List.append_assoc]

theorem length_memberText (member : SpelledMember) (further : PyStr) :
    (memberText member further).length =
      member.key.length + member.text.length + further.length + 3 := by
  simp only [memberText, List.length_cons, List.length_append]
  omega

/-- One member is read, and what decides about the rest is the character behind it. -/
theorem scanMembers_member {member : SpelledMember} {earlier : List (PyStr × PyJson)} {bound : Nat}
    {further : PyStr} {code : Nat} (sound : member.Sound)
    (fresh : member.key ∉ earlier.map Prod.fst) (visible : isPyJsonSpace code = false)
    (ends : EndsNumber (code :: further)) (small : member.text.length ≤ bound) :
    scanMembers (bound + 1) earlier (memberText member (code :: further)) =
      if code = 125 then some (.dict (earlier ++ [(member.key, member.value)]), further)
      else if code = 44 then
        scanMembers bound (earlier ++ [(member.key, member.value)]) (skipSpace further)
      else none := by
  rw [memberText, scanMembers, scanString_of_plain sound.plain]
  dsimp only
  rw [skipSpace_cons (by decide)]
  dsimp only
  rw [if_pos rfl, sound.spells.starts, sound.spells.reads bound _ small ends]
  dsimp only
  rw [skipSpace_cons visible, dictSet_of_notMem _ fresh]

/-- **The members of an object**, by induction on those that are left. -/
theorem scanMembers_spelled (members : List SpelledMember) :
    ∀ (member : SpelledMember) (earlier : List (PyStr × PyJson)) (bound : Nat) (rest : PyStr),
      member.Sound → (∀ other ∈ members, other.Sound) →
      (earlier.map Prod.fst ++ member.key :: members.map SpelledMember.key).Nodup →
      (memberText member (furtherMemberTexts members)).length ≤ bound →
      scanMembers bound earlier (memberText member (furtherMemberTexts members ++ rest)) =
        some (.dict (earlier ++ readMembers (member :: members)), rest) := by
  induction members with
  | nil =>
      intro member earlier bound rest sound _ distinct small
      have fresh : member.key ∉ earlier.map Prod.fst := fun listed =>
        (List.nodup_append.mp distinct).2.2 _ listed _ List.mem_cons_self rfl
      rw [length_memberText] at small
      obtain ⟨room, rfl⟩ : ∃ room, bound = room + 1 := ⟨bound - 1, by omega⟩
      have ends : EndsNumber (125 :: rest) := endsNumber_furtherMemberTexts [] rest
      rw [furtherMemberTexts, List.singleton_append,
        scanMembers_member sound fresh (by decide) ends (by omega), if_pos rfl]
      rfl
  | cons next members ih =>
      intro member earlier bound rest sound sounds distinct small
      have fresh : member.key ∉ earlier.map Prod.fst := fun listed =>
        (List.nodup_append.mp distinct).2.2 _ listed _ List.mem_cons_self rfl
      rw [length_memberText, furtherMemberTexts, List.length_cons] at small
      obtain ⟨room, rfl⟩ : ∃ room, bound = room + 1 := ⟨bound - 1, by omega⟩
      have ends := endsNumber_furtherMemberTexts (next :: members) rest
      rw [furtherMemberTexts, List.cons_append] at ends ⊢
      have distinct' : ((earlier ++ [(member.key, member.value)]).map Prod.fst ++
          next.key :: members.map SpelledMember.key).Nodup := by
        rw [List.map_append, List.append_assoc]
        exact distinct
      have read := ih next (earlier ++ [(member.key, member.value)]) room rest
        (sounds next List.mem_cons_self) (fun other listed => sounds other (.tail _ listed)) distinct'
        (by omega)
      have quoted : skipSpace (memberText next (furtherMemberTexts members) ++ rest) =
          memberText next (furtherMemberTexts members ++ rest) := by
        rw [memberText, List.cons_append, skipSpace_cons (by decide), memberText, List.append_assoc,
          List.cons_append, List.cons_append, List.append_assoc]
      rw [scanMembers_member sound fresh (by decide) ends (by omega), if_neg (by decide), if_pos rfl,
        quoted, read, List.append_assoc]
      rfl

/-- **An object spells what its members do.** -/
theorem spells_object {members : List SpelledMember} (sound : ∀ member ∈ members, member.Sound)
    (distinct : (members.map SpelledMember.key).Nodup) :
    Spells (objectText members) (.dict (readMembers members)) where
  starts rest := by
    cases members with
    | nil => exact skipSpace_cons (by decide)
    | cons member members => exact skipSpace_cons (by decide)
  reads bound rest small ends := by
    cases members with
    | nil =>
        obtain ⟨room, rfl⟩ : ∃ room, bound = room + 1 := ⟨bound - 1, by
          have : 2 ≤ bound := small
          omega⟩
        rfl
    | cons member members =>
        rw [objectText, List.length_cons] at small
        obtain ⟨room, rfl⟩ : ∃ room, bound = room + 1 := ⟨bound - 1, by omega⟩
        have read := scanMembers_spelled members member [] room rest (sound member List.mem_cons_self)
          (fun other listed => sound other (.tail _ listed)) distinct (by omega)
        have text : memberText member (furtherMemberTexts members) ++ rest =
            memberText member (furtherMemberTexts members ++ rest) := by
          rw [memberText_append]
          rfl
        rw [objectText, List.cons_append, text, scanOnce, if_neg (by decide), if_pos rfl]
        have start : skipSpace (memberText member (furtherMemberTexts members ++ rest)) =
            memberText member (furtherMemberTexts members ++ rest) := skipSpace_cons (by decide)
        rw [start]
        exact read

/-! ## Arrays -/

theorem endsNumber_furtherElementTexts (elements : List SpelledElement) (rest : PyStr) :
    EndsNumber (furtherElementTexts elements ++ rest) := by
  cases elements with
  | nil =>
      rintro _ ⟨⟩
      decide
  | cons element elements =>
      rintro _ ⟨⟩
      decide

/-- **The elements of an array**, by induction on those that are left. -/
theorem scanElements_spelled (elements : List SpelledElement) :
    ∀ (element : SpelledElement) (earlier : List PyJson) (bound : Nat) (rest : PyStr),
      Spells element.text element.value →
      (∀ other ∈ elements, Spells other.text other.value) →
      (element.text ++ furtherElementTexts elements).length ≤ bound →
      scanElements bound earlier (element.text ++ (furtherElementTexts elements ++ rest)) =
        some (.list (earlier ++ (element :: elements).map SpelledElement.value), rest) := by
  induction elements with
  | nil =>
      intro element earlier bound rest spells _ small
      rw [List.length_append, furtherElementTexts, List.length_singleton] at small
      obtain ⟨room, rfl⟩ : ∃ room, bound = room + 1 := ⟨bound - 1, by omega⟩
      have ends := endsNumber_furtherElementTexts [] rest
      rw [scanElements, spells.reads room _ (by omega) ends]
      dsimp only
      rw [furtherElementTexts, List.singleton_append, skipSpace_cons (by decide)]
      rfl
  | cons next elements ih =>
      intro element earlier bound rest spells others small
      rw [List.length_append, furtherElementTexts, List.length_cons] at small
      obtain ⟨room, rfl⟩ : ∃ room, bound = room + 1 := ⟨bound - 1, by omega⟩
      have ends := endsNumber_furtherElementTexts (next :: elements) rest
      have first := others next List.mem_cons_self
      have read := ih next (earlier ++ [element.value]) room rest first
        (fun other listed => others other (.tail _ listed)) (by omega)
      rw [scanElements, spells.reads room _ (by omega) ends]
      dsimp only
      rw [furtherElementTexts, List.cons_append, skipSpace_cons (by decide)]
      dsimp only
      rw [if_neg (by decide), if_pos rfl, List.append_assoc, first.starts, read, List.append_assoc]
      rfl

/-- No value starts with a closing bracket. -/
theorem scanOnce_bracket (bound : Nat) (rest : PyStr) : scanOnce bound (93 :: rest) = none := by
  cases bound with
  | zero => rfl
  | succ bound => rfl

theorem Spells.starts_with {text : PyStr} {value : PyJson} (spells : Spells text value) :
    ∃ code later, text = code :: later ∧ code ≠ 93 := by
  have read := spells.reads text.length [] (Nat.le_refl _) (by rintro _ ⟨⟩)
  rw [List.append_nil] at read
  cases text with
  | nil => exact absurd read.symm (Option.some_ne_none _)
  | cons code later =>
      refine ⟨code, later, rfl, ?_⟩
      rintro rfl
      rw [scanOnce_bracket] at read
      exact absurd read.symm (Option.some_ne_none _)

/-- **An array spells what its elements do.** -/
theorem spells_array {elements : List SpelledElement}
    (spells : ∀ element ∈ elements, Spells element.text element.value) :
    Spells (arrayText elements) (.list (elements.map SpelledElement.value)) where
  starts rest := by
    cases elements with
    | nil => exact skipSpace_cons (by decide)
    | cons element elements => exact skipSpace_cons (by decide)
  reads bound rest small ends := by
    cases elements with
    | nil =>
        obtain ⟨room, rfl⟩ : ∃ room, bound = room + 1 := ⟨bound - 1, by
          have : 2 ≤ bound := small
          omega⟩
        rfl
    | cons element elements =>
        rw [arrayText, List.length_cons] at small
        obtain ⟨room, rfl⟩ : ∃ room, bound = room + 1 := ⟨bound - 1, by omega⟩
        have first := spells element List.mem_cons_self
        have read := scanElements_spelled elements element [] room rest first
          (fun other listed => spells other (.tail _ listed)) (by omega)
        obtain ⟨code, later, text, other⟩ := first.starts_with
        rw [arrayText, List.cons_append, List.append_assoc, scanOnce, if_neg (by decide),
          if_neg (by decide), if_pos rfl, first.starts]
        rw [text, List.cons_append] at read ⊢
        split
        next found => exact absurd (List.cons.inj found).1 other
        next => exact read

/-! ## Whole texts -/

/-- **`json.loads` reads what is spelled.** -/
theorem Spells.loads {text : PyStr} {value : PyJson} (spells : Spells text value)
    (noMark : text.head? ≠ some 0xfeff) : loads text = some value := by
  have start := spells.starts []
  have read := spells.reads (text.length + 1) [] (Nat.le_succ _) (by rintro _ ⟨⟩)
  rw [List.append_nil] at start read
  rw [BoardTester.loads, if_neg noMark, start, read]
  rfl

end FlightComputer.BoardTester
